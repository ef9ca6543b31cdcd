import LightingDesk.Proofs.Decimal.Layout
import LightingDesk.Proofs.Document.Appearance
import LightingDesk.Ron.Print
import LightingDesk.Ron.Token
/-!
The tokens of RON texts that were written: quoted texts, names and numbers are each scanned as one
token where nothing follows that would continue them.
-/

namespace LightingDesk.Text

/-- Characters of the ASCII range that need no escape. -/
def isPlain (c : Char) : Bool :=
  0x20 ≤ c.toNat && c.toNat < 0x7f && c != '"' && c != '\\' && c != '\''

theorem escape_plain {c : Char} (plain : isPlain c = true) (single : Bool) :
    escape single c = [c] := by
  simp only [isPlain, Bool.and_eq_true, decide_eq_true_eq, bne_iff_ne] at plain
  obtain ⟨⟨⟨⟨low, high⟩, noDouble⟩, noBackslash⟩, noSingle⟩ := plain
  have outside : ∀ range ∈ extendingRanges ++ unprintableRanges,
      range.2 < 0x20 ∨ 0x7f ≤ range.1 := by decide +kernel
  have apart : ∀ range ∈ extendingRanges ++ unprintableRanges,
      ¬(range.1 ≤ c.toNat ∧ c.toNat ≤ range.2) := by
    intro range member inside
    have apart := outside range member
    omega
  rw [List.forall_mem_append] at apart
  have shows : isExtending c = false ∧ isUnprintable c = false := by
    simpa only [isExtending, isUnprintable, List.any_eq_false, Bool.and_eq_true,
      decide_eq_true_eq] using apart
  unfold escape
  split
  · exact absurd low (by decide)
  · exact absurd low (by decide)
  · exact absurd low (by decide)
  · exact absurd low (by decide)
  · exact absurd rfl noBackslash
  · exact absurd rfl noDouble
  · rw [if_neg noSingle, shows.1, shows.2]
    rfl

theorem flatMap_escape {chars : List Char} (plain : chars.all isPlain = true) (single : Bool) :
    chars.flatMap (escape single) = chars := by
  induction chars with
  | nil => rfl
  | cons c rest ih =>
      rw [List.all_cons, Bool.and_eq_true] at plain
      rw [List.flatMap_cons, escape_plain plain.1, ih plain.2, List.singleton_append]

theorem length_quote {text : String} (plain : text.toList.all isPlain = true) (single : Bool) :
    (quote single text).length = text.length + 2 := by
  simp [quote, flatMap_escape plain, String.length_toList]

end LightingDesk.Text

namespace LightingDesk.Ron

namespace Token

open Json.Token (isSpace)

/-- The characters consist of the tokens, with blanks between them but no comments. -/
inductive Spells : List Char → List Token → Prop
  | nil : Spells [] []
  | blank {c : Char} {rest : List Char} {tokens : List Token} (space : isSpace c = true)
      (spells : Spells rest tokens) : Spells (c :: rest) tokens
  | token {c : Char} {chars rest : List Char} {token : Token} {tokens : List Token}
      (shows : isSpace c = false) (noComment : c ≠ '/')
      (first : ∀ {steps : Nat}, chars.length < steps →
        next? steps (c :: chars) = some (token, rest))
      (shorter : rest.length ≤ chars.length) (spells : Spells rest tokens) :
      Spells (c :: chars) (token :: tokens)

theorem Spells.blanks {blanks rest : List Char} {tokens : List Token}
    (spaces : ∀ c ∈ blanks, isSpace c = true) (spells : Spells rest tokens) :
    Spells (blanks ++ rest) tokens := by
  induction blanks with
  | nil => exact spells
  | cons c blanks ih =>
      rw [List.forall_mem_cons] at spaces
      exact .blank spaces.1 (ih spaces.2)

theorem skipSpace_blank {c : Char} (space : isSpace c = true) (steps : Nat) (rest : List Char) :
    skipSpace (steps + 1) (c :: rest) = skipSpace (steps + 1) rest := by
  simp [skipSpace, space]

theorem skipSpace_cons {c : Char} (shows : isSpace c = false) (noComment : c ≠ '/') (steps : Nat)
    (rest : List Char) : skipSpace (steps + 1) (c :: rest) = some (c :: rest) := by
  simp only [skipSpace, List.dropWhile_cons, shows, Bool.false_eq_true, if_false]
  split
  · next same => exact absurd (List.cons.inj same).1 noComment
  · next same => exact absurd (List.cons.inj same).1 noComment
  · next same => exact absurd (List.cons.inj same).1 noComment
  · rfl

theorem scanAll_of_spells {chars : List Char} {tokens : List Token} (spells : Spells chars tokens)
    {steps : Nat} (enough : chars.length < steps) (taken : List Token) :
    scanAll steps taken chars = some (taken.reverse ++ tokens) := by
  induction spells generalizing steps taken with
  | nil =>
      obtain _ | steps := steps
      · cases enough
      · simp [scanAll, skipSpace]
  | @blank c rest tokens space _ ih =>
      obtain _ | steps := steps
      · cases enough
      · have skipped := ih (Nat.lt_of_succ_lt enough) taken
        simpa only [scanAll, skipSpace_blank space] using skipped
  | @token c chars rest token tokens shows noComment first shorter _ ih =>
      obtain _ | steps := steps
      · cases enough
      · rw [List.length_cons] at enough
        have scanned := first (Nat.lt_of_succ_lt_succ enough)
        have following := ih (Nat.lt_of_le_of_lt shorter (Nat.lt_of_succ_lt_succ enough))
          (token :: taken)
        simp only [scanAll, skipSpace_cons shows noComment, scanned, following]
        simp

theorem scan?_of_spells {chars : List Char} {tokens : List Token} (spells : Spells chars tokens) :
    scan? chars = some tokens :=
  scanAll_of_spells spells (Nat.lt_succ_self _) []

/-! ### Quoted texts -/

theorem hexValue?_digitChar :
    ∀ value < 16, Json.Token.hexValue? (Nat.digitChar value) = some value := by
  decide

theorem takeScalar_digit {count value digit : Nat} (small : digit < 16) (few : count < 6)
    (rest : List Char) :
    takeScalar count value (Nat.digitChar digit :: rest) =
      takeScalar (count + 1) (value * 16 + digit) rest := by
  have read := hexValue?_digitChar digit small
  have noBrace : Nat.digitChar digit ≠ '\x7d' := fun same => by
    rw [same] at read
    cases read
  rw [takeScalar]
  · simp only [read, if_neg (Nat.ne_of_lt few)]
  · exact noBrace

/-- Hexadecimal digits are taken one after the other. -/
theorem takeScalar_digits (number count value : Nat) (rest : List Char)
    (few : count + (Nat.toDigits 16 number).length ≤ 6) :
    ∃ scale, takeScalar count value (Nat.toDigits 16 number ++ rest) =
      takeScalar (count + (Nat.toDigits 16 number).length) (value * scale + number) rest := by
  induction number using Nat.strongRecOn generalizing rest with
  | ind number ih =>
      rcases Nat.lt_or_ge number 16 with small | large
      · rw [Nat.toDigits_of_lt_base small] at few ⊢
        exact ⟨16, takeScalar_digit small few rest⟩
      · have shape := Nat.toDigits_of_base_le (b := 16) (by decide) large
        rw [shape, List.length_append, List.length_singleton] at few
        obtain ⟨scale, front⟩ := ih (number / 16) (Nat.div_lt_self (by omega) (by decide))
          (Nat.digitChar (number % 16) :: rest) (by omega)
        refine ⟨scale * 16, ?_⟩
        rw [shape, List.append_assoc, List.singleton_append, front,
          takeScalar_digit (Nat.mod_lt _ (by decide)) (by omega)]
        rw [List.length_append, List.length_singleton, Nat.add_assoc, Nat.add_mul, Nat.mul_assoc,
          Nat.add_assoc, Nat.div_add_mod']

theorem takeEscape_code (c : Char) (rest : List Char) :
    takeEscape ('u' :: '\x7b' :: (Nat.toDigits 16 c.toNat ++ '\x7d' :: rest)) = some (c, rest) := by
  have bound : c.toNat < Nat.pow 16 6 := by
    rcases c.valid with low | ⟨-, high⟩
    · exact Nat.lt_trans low (by decide)
    · exact Nat.lt_trans high (by decide)
  have few : (Nat.toDigits 16 c.toNat).length ≤ 6 :=
    (Nat.length_toDigits_le_iff (by decide) (by decide)).2 bound
  have some : (Nat.toDigits 16 c.toNat).length ≠ 0 := Nat.ne_of_gt Nat.length_toDigits_pos
  obtain ⟨scale, front⟩ := takeScalar_digits c.toNat 0 0 ('\x7d' :: rest) (by omega)
  rw [Nat.zero_mul, Nat.zero_add, Nat.zero_add] at front
  have valid : c.toNat.isValidChar := c.valid
  simp only [takeEscape, front, takeScalar, some, valid, not_true_eq_false, or_self, if_false,
    Char.ofNat_toNat]

/-- An escaped character takes one step and is read back. -/
theorem scanText_escape {steps : Nat} (taken : List Char) (c : Char) (rest : List Char) :
    scanText (steps + 1) taken (Text.escape true c ++ rest) = scanText steps (c :: taken) rest := by
  unfold Text.escape
  split
  any_goals rfl
  next _ _ _ _ noBackslash noQuote =>
    split
    · next single =>
        subst single
        rfl
    · split
      · simp [scanText, takeEscape_code]
      · rw [List.singleton_append, scanText]
        · exact noQuote
        · exact noBackslash

theorem length_escape_pos (c : Char) : 0 < (Text.escape true c).length := by
  unfold Text.escape
  split
  any_goals decide
  split
  · simp
  · split <;> simp

theorem scanText_quoted (chars taken : List Char) (rest : List Char) {steps : Nat}
    (enough : (chars.flatMap (Text.escape true)).length < steps) :
    scanText steps taken (chars.flatMap (Text.escape true) ++ '"' :: rest) =
      some (.text (String.ofList (taken.reverse ++ chars)), rest) := by
  induction chars generalizing taken steps with
  | nil =>
      obtain _ | steps := steps
      · cases enough
      · simp [scanText]
  | cons c chars ih =>
      have some := length_escape_pos c
      rw [List.flatMap_cons, List.length_append] at enough
      obtain _ | steps := steps
      · cases enough
      · rw [List.flatMap_cons, List.append_assoc, scanText_escape, ih (c :: taken) (by omega)]
        simp

theorem next?_quote (text : String) (rest : List Char) {steps : Nat}
    (enough : (text.toList.flatMap (Text.escape true) ++ '"' :: rest).length < steps) :
    next? steps (Text.quote true text ++ rest) = some (.text text, rest) := by
  rw [List.length_append] at enough
  have whole := scanText_quoted text.toList [] rest (show _ < steps by omega)
  simpa [Text.quote, next?] using whole

/-! ### Names and numbers -/

/-- What stands behind a word does not continue it, and makes no raw text of it. -/
def Ends (rest : List Char) : Prop := isRunOn rest = false

theorem Ends.noName {rest : List Char} (ends : Ends rest) :
    ∀ c ∈ rest.head?, isNameCharacter c = false := by
  cases rest with
  | nil => exact fun c none => by cases none
  | cons c rest =>
      rintro d ⟨⟩
      simp only [Ends, isRunOn, Bool.or_eq_false_iff] at ends
      exact ends.1.1

theorem isNameCharacter_of_isWordCharacter {c : Char} (isWord : isWordCharacter c = true) :
    isNameCharacter c = true := by
  simp [isNameCharacter, isWord]

theorem span_append {p : Char → Bool} {chars rest : List Char} (all : ∀ c ∈ chars, p c = true)
    (ends : ∀ c ∈ rest.head?, p c = false) :
    (chars ++ rest).takeWhile p = chars ∧ (chars ++ rest).dropWhile p = rest := by
  rw [List.takeWhile_append_of_pos all, List.dropWhile_append_of_pos all]
  cases rest with
  | nil => simp
  | cons c rest => simp [ends c rfl]

theorem noSymbol {c : Char} (starts : (isNumberStart c || isWordStart c) = true) :
    ['(', ')', '[', ']', '\x7b', '\x7d', ',', ':', '#', '!'].contains c = false := by
  rw [← Bool.not_eq_true, List.contains_iff_mem]
  intro member
  simp only [List.mem_cons, List.not_mem_nil, or_false] at member
  rcases member with rfl | rfl | rfl | rfl | rfl | rfl | rfl | rfl | rfl | rfl <;> cases starts

/-- A character that a number begins with stands for no other token. -/
theorem next?_number {c : Char} {tail : List Char} (starts : isNumberStart c = true)
    (all : ∀ d ∈ c :: tail, isNameCharacter d = true) {rest : List Char} (ends : Ends rest)
    (steps : Nat) : next? steps (c :: tail ++ rest) = some (.number (c :: tail), rest) := by
  obtain ⟨taken, dropped⟩ := span_append all ends.noName
  have plain := noSymbol (c := c) (by rw [starts]; rfl)
  rw [List.cons_append] at taken dropped ⊢
  unfold next?
  split
  iterate 5 next same => rw [(List.cons.inj same).1] at starts; cases starts
  · next same =>
      cases same
      rw [plain, starts, taken, dropped]
      rfl
  · next same => cases same

theorem scanWord_append {name rest : List Char} (all : ∀ c ∈ name, isWordCharacter c = true)
    (ends : Ends rest) : scanWord (name ++ rest) = some (.word (String.ofList name), rest) := by
  have noWord : ∀ c ∈ rest.head?, isWordCharacter c = false := fun c first => by
    have noName := ends.noName c first
    simp only [isNameCharacter, Bool.or_eq_false_iff] at noName
    exact noName.1.1.1
  have noName : (rest.head?.map isNameCharacter).getD false = false := by
    cases rest with
    | nil => rfl
    | cons c rest => exact ends.noName c rfl
  obtain ⟨taken, dropped⟩ := span_append all noWord
  have noRun : isRunOn rest = false := ends
  simp [scanWord, taken, dropped, noRun, noName]

theorem isDigit_of_isWordStart {c : Char} (starts : isWordStart c = true) : c.isDigit = false := by
  simp only [isWordStart, Bool.or_eq_true, Bool.and_eq_true, decide_eq_true_eq] at starts
  rw [← Bool.not_eq_true]
  intro digit
  have most := (Decimal.le_toNat_of_isDigit digit).2
  rcases starts with (⟨least, -⟩ | ⟨least, -⟩) | rfl
  · have least : 97 ≤ c.toNat := least
    omega
  · have least : 65 ≤ c.toNat := least
    omega
  · exact absurd most (by decide)

/-- No mark of a raw text stands behind the first letter of a word. -/
theorem noRaw {tail rest : List Char} (all : ∀ d ∈ tail, isWordCharacter d = true)
    (ends : Ends rest) {mark : Char} (raw : mark = '"' ∨ mark = '#') (after : List Char) :
    tail ++ rest ≠ mark :: after := by
  intro same
  cases tail with
  | nil =>
      rw [List.nil_append] at same
      rw [same] at ends
      rcases raw with rfl | rfl <;> cases ends
  | cons d tail =>
      have isWord := all d List.mem_cons_self
      rw [(List.cons.inj same).1] at isWord
      rcases raw with rfl | rfl <;> cases isWord

theorem next?_word {c : Char} {tail : List Char} (starts : isWordStart c = true)
    (all : ∀ d ∈ c :: tail, isWordCharacter d = true) {rest : List Char} (ends : Ends rest)
    (steps : Nat) :
    next? steps (c :: tail ++ rest) = some (.word (String.ofList (c :: tail)), rest) := by
  have scanned := scanWord_append all ends
  have plain := noSymbol (c := c) (by rw [starts, Bool.or_true])
  have noRaw {mark : Char} (raw : mark = '"' ∨ mark = '#') :=
    noRaw (fun d member => all d (List.mem_cons_of_mem c member)) ends raw
  have noNumber : isNumberStart c = false := by
    rw [← Bool.not_eq_true]
    intro number
    simp only [isNumberStart, Bool.or_eq_true, decide_eq_true_eq] at number
    rcases number with ((digit | rfl) | rfl) | rfl
    · rw [isDigit_of_isWordStart starts] at digit
      cases digit
    all_goals cases starts
  rw [List.cons_append] at scanned ⊢
  unfold next?
  split
  · next same => rw [(List.cons.inj same).1] at starts; cases starts
  · next same => rw [(List.cons.inj same).1] at starts; cases starts
  · next same => exact absurd (List.cons.inj same).2 (noRaw (.inl rfl) _)
  · next same => exact absurd (List.cons.inj same).2 (noRaw (.inr rfl) _)
  · next same => rw [(List.cons.inj same).1] at starts; cases starts
  · next same =>
      cases same
      rw [plain, noNumber, starts]
      exact scanned
  · next same => cases same

/-- A name with hyphens is one token behind the mark of a raw name. -/
theorem next?_rawName {name : List Char} (nonempty : name ≠ [])
    (all : ∀ d ∈ name, isNameCharacter d = true) {rest : List Char} (ends : Ends rest)
    (steps : Nat) :
    next? steps ('r' :: '#' :: name ++ rest) = some (.rawName (String.ofList name), rest) := by
  obtain ⟨taken, dropped⟩ := span_append all ends.noName
  obtain ⟨c, tail, rfl⟩ := List.exists_cons_of_ne_nil nonempty
  have first := all c List.mem_cons_self
  simp only [List.cons_append] at taken dropped ⊢
  simp only [next?, first, if_true, taken, dropped]

end Token

end LightingDesk.Ron
