import LightingDesk.Proofs.Decimal.Nearest
import LightingDesk.Proofs.Ron.Text

/-!
Every floating-point number is read back from its RON text, whatever its size.
-/

namespace LightingDesk

open Decimal (AreDigits Literal Parts Reading digitOf)
open Float.Model (Format)
open Float.Model.UnpackedFloat (unpack)
open Floats

namespace Ron

theorem parseUnsigned_parts (negative : Bool) {whole fraction : List Char} (some : whole ≠ [])
    (digits : AreDigits whole) (more : AreDigits fraction) :
    Literal.parseUnsigned negative (whole ++ '.' :: fraction) =
      Option.some ⟨negative, whole.map digitOf, fraction.map digitOf, 0⟩ := by
  have front := Decimal.takeDigits_append digits
    (show ∀ c ∈ ('.' :: fraction).head?, c.isDigit = false by simp)
  have behind := Decimal.takeDigits_append more
    (show ∀ c ∈ ([] : List Char).head?, c.isDigit = false by simp)
  rw [List.append_nil] at behind
  have nonempty : (whole.map digitOf).isEmpty = false := by simp [some]
  simp only [Literal.parseUnsigned, front, behind, nonempty, Bool.false_and, Bool.false_eq_true,
    if_false, Literal.takeExponent]

/-- A word that begins with a digit is none that begins with a letter. -/
theorem sameLetters_of_isDigit {c : Char} (digit : c.isDigit = true) (rest : List Char)
    {name : String} (letter : name.toList.head?.any (fun first => !first.toLower.isDigit) = true) :
    Text.sameLetters (String.ofList (c :: rest)) name = false := by
  rw [Text.sameLetters, String.toList_ofList, beq_eq_false_iff_ne]
  intro same
  cases shape : name.toList with
  | nil =>
    rw [shape] at letter
    cases letter
  | cons first others =>
    rw [shape] at letter same
    have heads : c.toLower = first.toLower := (List.cons.inj same).1
    have most := (Decimal.le_toNat_of_isDigit digit).2
    have lower : c.toLower = c := dif_neg fun upper => by
      have least : 65 ≤ c.toNat := UInt32.le_iff_toNat_le.1 upper.1
      omega
    rw [List.head?_cons, Option.any_some, ← heads, lower, digit] at letter
    cases letter

theorem parse?_sign (negative : Bool) {c : Char} (digit : c.isDigit = true) (rest : List Char) :
    Reading.parse? (String.ofList (Decimal.sign negative ++ c :: rest)) =
      (Literal.parseUnsigned negative (c :: rest)).map .finite := by
  have inf := sameLetters_of_isDigit digit rest (show "inf".toList.head?.any _ = true by decide)
  have infinity :=
    sameLetters_of_isDigit digit rest (show "infinity".toList.head?.any _ = true by decide)
  have nan := sameLetters_of_isDigit digit rest (show "nan".toList.head?.any _ = true by decide)
  unfold Reading.parse?
  rw [String.toList_ofList]
  cases negative with
  | true =>
    simp only [Decimal.sign, if_true, List.cons_append, List.nil_append, inf, infinity, nan,
      Bool.or_self, Bool.false_eq_true, if_false]
  | false =>
    simp only [Decimal.sign, Bool.false_eq_true, if_false, List.nil_append]
    split
    next shape =>
      cases shape
      cases digit
    next shape =>
      cases shape
      cases digit
    next =>
      simp only [inf, infinity, nan, Bool.or_self, Bool.false_eq_true, if_false]

/-- Digits on both sides of a point, behind a sign perhaps, are read as they stand. -/
theorem readingOf?_parts (negative : Bool) {whole fraction : List Char}
    (some : whole ≠ []) (digits : AreDigits whole) (more : AreDigits fraction) :
    readingOf? (Decimal.sign negative ++ (whole ++ '.' :: fraction)) =
      Option.some (.finite ⟨negative, whole.map digitOf, fraction.map digitOf, 0⟩) := by
  have unsigned := parseUnsigned_parts negative some digits more
  have all : (Decimal.sign negative ++ (whole ++ '.' :: fraction)).all isFloatCharacter = true := by
    have float {characters : List Char} (areDigits : AreDigits characters) :
        characters.all isFloatCharacter = true := by
      refine List.all_eq_true.2 fun c member => ?_
      rw [isFloatCharacter, areDigits c member]
      rfl
    cases negative <;> simp [Decimal.sign, float digits, float more, isFloatCharacter]
  obtain ⟨c, rest, rfl⟩ := List.exists_cons_of_ne_nil some
  have digit := digits c List.mem_cons_self
  have notLetter : c ≠ 'i' ∧ c ≠ 'N' ∧ c ≠ '-' := by
    refine ⟨?_, ?_, ?_⟩ <;> rintro rfl <;> cases digit
  have parsed := parse?_sign negative digit (rest ++ '.' :: fraction)
  rw [← List.cons_append, unsigned] at parsed
  rw [readingOf?, if_neg, if_neg, if_neg, if_pos all, parsed]
  · rfl
  · cases negative <;> simp [Decimal.sign, notANumber, notLetter]
  · cases negative <;> simp [Decimal.sign, infinite, notLetter]
  · cases negative <;> simp [Decimal.sign, infinite, notLetter]

variable {spec : Format} {mantissa : Nat} {exponent : ℤ}

/-- The text of a finite number is read as a decimal fraction that rounds to it. -/
theorem exists_reading (moderate : Decimal.Moderate spec)
    (canonical : Canonical spec mantissa exponent) (bounded : Bounded spec exponent)
    (negative : Bool) :
    ∃ literal : Literal, literal.negative = negative ∧ literal.IsFraction spec ∧
      readingOf? ((Parts.finite negative (.ofParts spec mantissa exponent)).plain true) =
        some (.finite literal) ∧
      Rounds spec literal.value mantissa exponent := by
  have shortest := moderate.isShortest canonical bounded .upper
  generalize same : (Decimal.Binary.ofParts spec mantissa exponent).shortest .upper = number
    at shortest
  have positive := shortest.positive
  have deep := shortest.deep moderate canonical
  obtain ⟨whole, fraction, text, isWhole, ⟨behind, more⟩, length, shows⟩ :=
    Decimal.positional_parts fun none => absurd none positive.ne'
  have worth := (shows negative).value_eq
  refine ⟨⟨negative, whole.map digitOf, fraction.map digitOf, 0⟩, rfl, ⟨?_, ?_, ?_, ?_⟩, ?_,
    worth ▸ shortest.rounds⟩
  · refine Nat.pos_of_ne_zero fun none => ?_
    have some : (0 : ℚ) < number.value := mul_pos (by exact_mod_cast positive) (by positivity)
    rw [← worth, Literal.value, none, Nat.cast_zero, zero_mul] at some
    exact lt_irrefl _ some
  · simp only [Literal.firstPower]
    omega
  · have some := List.length_pos_iff.2 behind
    simp only [Literal.lastPower, List.length_map]
    omega
  · have one : 1 ≤ 2 ^ spec.exponentBits := Nat.one_le_two_pow
    have deep : -((2 ^ spec.exponentBits : Nat) : ℤ) ≤ number.exponent := by exact_mod_cast deep
    simp only [Literal.lastPower, List.length_map, length]
    omega
  · rw [Parts.plain, same, text]
    exact readingOf?_parts negative isWhole.nonempty isWhole.digits more

/-- The text of a number is read as what gives that number. -/
theorem exists_gives (moderate : Decimal.Moderate spec) (bits : BitVec spec.numBits) :
    ∃ reading : Reading, readingOf? ((partsOf spec (unpack spec bits)).plain true) = some reading ∧
      reading.Gives spec (unpack spec bits) := by
  cases shape : unpack spec bits with
  | notANumber => exact ⟨_, rfl, .notANumber⟩
  | infinity sign => exact ⟨.infinite (isNegative sign), by cases sign <;> rfl, .infinite sign⟩
  | zero sign =>
    have digits : AreDigits ['0'] := by simp [AreDigits]
    exact ⟨_, readingOf?_parts (isNegative sign) (List.cons_ne_nil '0' []) digits digits,
      .zero rfl rfl⟩
  | finite sign mantissa exponent positive =>
    obtain ⟨canonical, bounded⟩ := canonical_of_unpack moderate.wide shape
    obtain ⟨literal, same, fraction, read, rounds⟩ :=
      exists_reading moderate canonical bounded (isNegative sign)
    exact ⟨_, read, .finite same fraction canonical bounded rounds⟩

end Ron

/-- Every number of double precision is read back from its text. -/
theorem Written.isRonDouble (x : Float) : IsRonDouble x := by
  obtain ⟨reading, read, gives⟩ :=
    Ron.exists_gives Decimal.moderate_double x.toModel.toBits.toBitVec
  rw [IsRonDouble, ofFloat_eq]
  change (Ron.readingOf? ((partsOf .binary64 (unpack .binary64 _)).plain true)).map _ = _
  rw [read, Option.map_some, eq_of_unpack gives.unpack_toFloat]

/-- Every number of single precision is read back from its text. -/
theorem Written.isRonSingle (x : Float32) : IsRonSingle x := by
  obtain ⟨reading, read, gives⟩ :=
    Ron.exists_gives Decimal.moderate_single x.toModel.toBits.toBitVec
  rw [IsRonSingle, ofFloat32_eq]
  change (Ron.readingOf? ((partsOf .binary32 (unpack .binary32 _)).plain true)).map _ = _
  rw [read, Option.map_some, eq_of_unpack_single gives.unpack_toFloat32]

end LightingDesk
