import LightingDesk.Json.Parse
import LightingDesk.Json.Print
import LightingDesk.Proofs.Decimal.Layout
/-!
The tokens of JSON texts that were written: quoted texts, integers and numbers with a fraction are
each scanned as one token, whatever follows them.
-/

namespace LightingDesk.Json

namespace Token

/-! ### Texts and their tokens -/

/-- The characters consist of the tokens, with blanks between them. -/
inductive Spells : List Char → List Token → Prop
  | nil : Spells [] []
  | blank {c : Char} {rest : List Char} {tokens : List Token} (space : isSpace c = true)
      (spells : Spells rest tokens) : Spells (c :: rest) tokens
  | token {c : Char} {chars rest : List Char} {token : Token} {tokens : List Token}
      (shows : isSpace c = false) (first : next? (c :: chars) = some (token, rest))
      (shorter : rest.length ≤ chars.length) (spells : Spells rest tokens) :
      Spells (c :: chars) (token :: tokens)

theorem Spells.blanks {blanks rest : List Char} {tokens : List Token}
    (spaces : ∀ c ∈ blanks, isSpace c = true) (spells : Spells rest tokens) :
    Spells (blanks ++ rest) tokens := by
  induction blanks with
  | nil => exact spells
  | cons c blanks ih =>
      rw [List.forall_mem_cons] at spaces
      exact .blank spaces.1 (ih spaces.2)

theorem scanAll_of_spells {chars : List Char} {tokens : List Token} (spells : Spells chars tokens)
    {steps : Nat} (enough : chars.length < steps) (taken : List Token) :
    scanAll steps taken chars = some (taken.reverse ++ tokens) := by
  induction spells generalizing steps taken with
  | nil =>
      obtain _ | steps := steps
      · cases enough
      · simp [scanAll]
  | @blank c rest tokens space _ ih =>
      obtain _ | steps := steps
      · cases enough
      · have skipped := ih (Nat.lt_of_succ_lt enough) taken
        simpa only [scanAll, List.dropWhile_cons, space, if_true] using skipped
  | @token c chars rest token tokens shows first shorter _ ih =>
      obtain _ | steps := steps
      · cases enough
      · have shown : rest.length < steps := by
          rw [List.length_cons] at enough
          omega
        simp [scanAll, shows, first, ih shown]

theorem scan?_of_spells {chars : List Char} {tokens : List Token} (spells : Spells chars tokens) :
    scan? chars = some tokens :=
  scanAll_of_spells spells (Nat.lt_succ_self _) []

/-! ### Quoted texts -/

theorem unit?_hexDigits : ∀ value < 32, ∃ a b c d,
    Identifier.hexDigits 4 value = [a, b, c, d] ∧ unit? a b c d = some value :=
  fun value small =>
    ⟨'0', '0', Identifier.hexDigit (value / 16), Identifier.hexDigit (value % 16), by
      revert value
      decide⟩

/-- An escaped character is read back, whatever was read before it. -/
theorem scanText_escape (taken : List Char) (c : Char) (rest : List Char) :
    scanText taken none true (escape c ++ rest) = scanText (c :: taken) none true rest := by
  unfold escape
  split
  any_goals rfl
  next noQuote noBackslash _ _ _ _ _ =>
    split
    · next control =>
        obtain ⟨x, y, z, w, digits, value⟩ := unit?_hexDigits c.toNat control
        have low : isHighSurrogate c.toNat = false := by
          simp only [isHighSurrogate, Bool.and_eq_false_iff, decide_eq_false_iff_not]
          omega
        have high : isLowSurrogate c.toNat = false := by
          simp only [isLowSurrogate, Bool.and_eq_false_iff, decide_eq_false_iff_not]
          omega
        simp [digits, scanText, value, low, high]
    · next plain =>
        rw [List.singleton_append, scanText]
        · simp [plain]
        · exact noQuote
        · rintro _ _ _ _ _ rfl
          exact absurd rfl noBackslash
        · rintro _ _ rfl
          exact absurd rfl noBackslash

theorem next?_quote (text : String) (rest : List Char) :
    next? (quote text ++ rest) = some (.text text, rest) := by
  have scanned : ∀ (chars taken : List Char),
      scanText taken none true (chars.flatMap escape ++ '"' :: rest) =
        some (.text (String.ofList (taken.reverse ++ chars)), rest) := by
    intro chars
    induction chars with
    | nil => intro taken; simp [scanText]
    | cons c chars ih =>
        intro taken
        rw [List.flatMap_cons, List.append_assoc, scanText_escape, ih]
        simp
  have whole := scanned text.toList []
  simpa [quote, next?] using whole

/-! ### Numbers -/

/-- What stands behind a number does not continue it. -/
def Ends (rest : List Char) : Prop :=
  ∀ c ∈ rest.head?, c.isDigit = false ∧ c ≠ '.' ∧ c ≠ 'e' ∧ c ≠ 'E'

theorem Ends.noDigit {rest : List Char} (ends : Ends rest) :
    ∀ c ∈ rest.head?, c.isDigit = false :=
  fun c first => (ends c first).1

/-- The document of a token that is a number. -/
def number? : Token → Option Json
  | integer value => some (.integer value)
  | decimal literal => some (.decimal literal)
  | _ => none

theorem takeExponent_of_ends {rest : List Char} (ends : Ends rest) :
    Decimal.Literal.takeExponent rest = some (0, rest) := by
  cases rest with
  | nil => rfl
  | cons c rest =>
      obtain ⟨-, -, small, large⟩ := ends c rfl
      simp [Decimal.Literal.takeExponent, small, large]

/-- A power of ten is taken as a whole, and where it is missing nothing is. -/
theorem takeExponent_append {power : List Char} (isPower : Decimal.IsPower power) :
    ∃ exponent, ∀ rest, Ends rest →
      Decimal.Literal.takeExponent (power ++ rest) = some (exponent, rest) := by
  rcases isPower with rfl | ⟨sign, digits, signed, nonempty, all, rfl⟩
  · exact ⟨0, fun rest ends => takeExponent_of_ends ends⟩
  · have some : (digits.map Decimal.digitOf).isEmpty = false := by simp [nonempty]
    let value : Int := Decimal.valueOfDigits (digits.map Decimal.digitOf)
    rcases signed with rfl | rfl
    · refine ⟨-value, fun rest ends => ?_⟩
      simp [Decimal.Literal.takeExponent, Decimal.takeDigits_append all ends.noDigit, some, value]
    · refine ⟨value, fun rest ends => ?_⟩
      simp [Decimal.Literal.takeExponent, Decimal.takeDigits_append all ends.noDigit, some, value]

/-- What stands in front of a power of ten is no digit and no point. -/
theorem head_power {power rest : List Char} (isPower : Decimal.IsPower power) (ends : Ends rest) :
    ∀ c ∈ (power ++ rest).head?, c.isDigit = false ∧ c ≠ '.' := by
  rcases isPower with rfl | ⟨sign, digits, -, -, -, rfl⟩
  · exact fun c first => ⟨(ends c first).1, (ends c first).2.1⟩
  · rintro c first
    cases first
    decide

/-- Without a point the digits are a whole number, unless a power of ten follows them. -/
theorem scanUnsigned_whole (negative : Bool) {whole rest after : List Char} {exponent : Int}
    (isWhole : Decimal.IsWhole whole)
    (ends : ∀ c ∈ rest.head?, c.isDigit = false ∧ c ≠ '.')
    (taken : Decimal.Literal.takeExponent rest = some (exponent, after)) :
    scanUnsigned negative (whole ++ rest) =
      if rest.head?.any fun c => c = 'e' || c = 'E' then
        some (decimal ⟨negative, whole.map Decimal.digitOf, [], exponent⟩, after)
      else some (ofDigits negative (whole.map Decimal.digitOf), after) := by
  have nonempty : (whole.map Decimal.digitOf).isEmpty = false := by simp [isWhole.nonempty]
  have front := Decimal.takeDigits_append isWhole.digits fun c first => (ends c first).1
  simp only [scanUnsigned, front, nonempty, isWhole.head?_map, Bool.or_self, Bool.false_eq_true,
    if_false]
  split
  · next none =>
      split at none
      · exact absurd rfl (ends '.' rfl).2
      · cases none
  · next some =>
      split at some
      · exact absurd rfl (ends '.' rfl).2
      · cases some
        rw [taken]
        cases rest.head?.any fun c => c = 'e' || c = 'E' <;> rfl

/-- Digits alone are a whole number. -/
theorem scanUnsigned_digits (negative : Bool) {whole rest : List Char}
    (isWhole : Decimal.IsWhole whole) (ends : Ends rest) :
    scanUnsigned negative (whole ++ rest) =
      some (ofDigits negative (whole.map Decimal.digitOf), rest) := by
  have noPower : (rest.head?.any fun c => c = 'e' || c = 'E') = false := by
    cases rest with
    | nil => rfl
    | cons c rest => simp [(ends c rfl).2.2]
  rw [scanUnsigned_whole negative isWhole (fun c first => ⟨(ends c first).1, (ends c first).2.1⟩)
    (takeExponent_of_ends ends), noPower]
  rfl

/-- The parts of a number with a point or a power of ten are one token, whatever does not continue
them. -/
theorem scanUnsigned_parts (negative : Bool) {whole fraction power : List Char} {exponent : Int}
    (isWhole : Decimal.IsWhole whole) (isFraction : Decimal.IsFraction fraction)
    (isPower : Decimal.IsPower power) (marked : fraction ≠ [] ∨ power ≠ [])
    (only : Decimal.Literal.takeExponent power = some (exponent, [])) :
    ∀ rest, Ends rest → scanUnsigned negative (whole ++ (fraction ++ (power ++ rest))) =
      some (decimal ⟨negative, whole.map Decimal.digitOf, (fraction.drop 1).map Decimal.digitOf,
        exponent⟩, rest) := by
  intro rest ends
  obtain ⟨other, taken⟩ := takeExponent_append isPower
  have same := taken [] (by simp [Ends])
  rw [List.append_nil, only, Option.some.injEq, Prod.mk.injEq] at same
  obtain rfl := same.1
  rcases isFraction with rfl | ⟨digits, some, all, rfl⟩
  · obtain ⟨sign, digits, -, -, -, rfl⟩ := isPower.resolve_left (marked.resolve_left (· rfl))
    have outside := head_power isPower ends
    have scanned := scanUnsigned_whole negative isWhole outside (taken rest ends)
    exact scanned
  · have nonempty : (whole.map Decimal.digitOf).isEmpty = false := by simp [isWhole.nonempty]
    have several : (digits.map Decimal.digitOf).isEmpty = false := by simp [some]
    have front := Decimal.takeDigits_append isWhole.digits
      (show ∀ c ∈ ('.' :: (digits ++ (power ++ rest))).head?, c.isDigit = false by simp)
    have behind := Decimal.takeDigits_append all fun c first => (head_power isPower ends c first).1
    simp only [scanUnsigned, List.cons_append, front, behind, nonempty, isWhole.head?_map,
      taken rest ends, several, Bool.false_and, Bool.or_self, Bool.false_eq_true, if_false,
      List.drop_one, List.tail_cons]

theorem scanNumber_sign (negative : Bool) {whole rest : List Char}
    (isWhole : Decimal.IsWhole whole) :
    scanNumber (Decimal.sign negative ++ (whole ++ rest)) =
      scanUnsigned negative (whole ++ rest) := by
  cases negative with
  | true => rfl
  | false =>
      obtain ⟨c, tail, shape⟩ := List.exists_cons_of_ne_nil isWhole.nonempty
      have digit := isWhole.digits c (shape ▸ List.mem_cons_self)
      subst shape
      change scanNumber (c :: (tail ++ rest)) = _
      unfold scanNumber
      split
      · next same =>
          cases same
          cases digit
      · rfl

/-- A text that begins with a sign or a digit begins with a number. -/
theorem next?_sign (negative : Bool) {whole rest : List Char} (isWhole : Decimal.IsWhole whole) :
    next? (Decimal.sign negative ++ (whole ++ rest)) = scanUnsigned negative (whole ++ rest) := by
  rw [← scanNumber_sign negative isWhole]
  obtain ⟨c, tail, shape⟩ := List.exists_cons_of_ne_nil isWhole.nonempty
  have digit := isWhole.digits c (shape ▸ List.mem_cons_self)
  subst shape
  cases negative with
  | true => rfl
  | false =>
      change next? (c :: (tail ++ rest)) = scanNumber (c :: (tail ++ rest))
      unfold next?
      split
      all_goals first
        | rfl
        | (next same => rw [(List.cons.inj same).1] at digit; cases digit)

end Token

end LightingDesk.Json
