import LightingDesk.Proofs.Decimal.Scaling
import LightingDesk.Proofs.Json.Text

/-!
What numbers are read as from their JSON texts. Every finite number is read as some number, and one that
is written with few digits as itself.
-/

namespace LightingDesk

open Decimal (Binary Literal Parts)
open Float.Model.UnpackedFloat
open Floats

namespace Json

/-! ### Every finite number has a reading -/

theorem exists_literal {layout : Decimal.Layout} {parts : Parts}
    (finite : (parts.laidOut? layout).isSome = true) :
    ∃ literal, (parse? (String.ofList ((parts.laidOut? layout).getD nullText))).getD .null =
      .decimal literal ∧ parts.ShownBy layout literal := by
  obtain ⟨text, laidOut⟩ := Option.isSome_iff_exists.1 finite
  obtain ⟨literal, reads, shown⟩ := exists_reads_laidOut laidOut
  refine ⟨literal, ?_, shown⟩
  rw [laidOut, Option.getD_some, parse?_of_reads reads, Option.getD_some]

theorem exists_ofDoubleText {x : Float} (finite : x.isFinite = true) :
    ∃ literal, ofDoubleText x = .decimal literal ∧
      (partsOf .binary64 x.toModel.unpack).ShownBy .double literal := by
  have some : ((Parts.ofFloat x).laidOut? .double).isSome = true := by
    rw [ofFloat_eq, isSome_laidOut?]
    exact finite
  rw [← ofFloat_eq]
  exact exists_literal some

theorem exists_ofSingleText {x : Float32} (finite : x.isFinite = true) :
    ∃ literal, ofSingleText x = .decimal literal ∧
      (partsOf .binary32 x.toModel.unpack).ShownBy .single literal := by
  have some : ((Parts.ofFloat32 x).laidOut? .single).isSome = true := by
    rw [ofFloat32_eq, isSome_laidOut?]
    exact finite
  rw [← ofFloat32_eq]
  exact exists_literal some

/-- A number that is written out has a reading if it has one where it is not zero. -/
theorem isSome_scaled?_of_shown {spec : Float.Model.Format} (wide : Wide spec)
    {bits : BitVec spec.numBits} {layout : Decimal.Layout} {literal : Literal}
    (shown : (partsOf spec (unpack spec bits)).ShownBy layout literal)
    (readable : ∀ {mantissa exponent}, Canonical spec mantissa exponent → Bounded spec exponent →
      literal.Shows ((Binary.ofParts spec mantissa exponent).shortest .even) →
      literal.IsFew layout ((Binary.ofParts spec mantissa exponent).shortest .even) →
      literal.scaled?.isSome = true) : literal.scaled?.isSome = true := by
  cases shape : unpack spec bits with
  | notANumber | infinity sign =>
    rw [shape] at shown
    cases shown
  | zero sign =>
    rw [shape] at shown
    cases shown with
    | zero same digits =>
      rw [Literal.scaled?_zero digits]
      rfl
  | finite sign mantissa exponent positive =>
    obtain ⟨canonical, bounded⟩ := canonical_of_unpack wide shape
    rw [shape] at shown
    cases shown with
    | finite same shows few => exact readable canonical bounded shows few

theorem isSome_double? {x : Float} (finite : x.isFinite = true) :
    (ofDoubleText x).double?.isSome = true := by
  obtain ⟨literal, text, shown⟩ := exists_ofDoubleText finite
  rw [text]
  exact isSome_scaled?_of_shown wide_double shown Decimal.isSome_scaled?_double

theorem isSome_single? {x : Float32} (finite : x.isFinite = true) :
    (ofSingleText x).single?.isSome = true := by
  obtain ⟨literal, text, shown⟩ := exists_ofSingleText finite
  rw [text, single?, Option.isSome_map]
  exact isSome_scaled?_of_shown wide_single shown Decimal.isSome_scaled?_single

/-! ### Numbers with few digits -/

/-- The nearest double to a decimal with up to fourteen digits, and up to 22 of them behind the point. -/
def IsShort (x : Float) : Prop :=
  ∃ (digits places : Nat), digits < 10 ^ 14 ∧ places ≤ 22 ∧
    (x = Float.ofScientific digits true places ∨ x = -Float.ofScientific digits true places)

theorem double?_zero {x : Float} (finite : x.isFinite = true) {sign : Sign}
    (zero : x.toModel.unpack = .zero sign) : (ofDoubleText x).double? = some x := by
  obtain ⟨literal, text, shown⟩ := exists_ofDoubleText finite
  rw [zero] at shown
  cases shown with
  | zero same digits =>
    rw [text, double?, Literal.scaled?_zero digits, same, Option.some.injEq]
    apply eq_of_unpack
    rw [zero]
    cases sign <;> rfl

theorem double?_finite {x : Float} (finite : x.isFinite = true) {sign : Sign} {mantissa : Nat}
    {exponent : ℤ} {positive : 0 < mantissa}
    (shape : x.toModel.unpack = .finite sign mantissa exponent positive)
    {digits places : Nat} (some : 0 < digits) (few : digits < 10 ^ 14) (near : places ≤ 22)
    (rounds : Rounds .binary64 (digits / 10 ^ places) mantissa exponent) :
    (ofDoubleText x).double? = Option.some x := by
  obtain ⟨canonical, bounded⟩ := canonical_of_unpack wide_double shape
  obtain ⟨literal, text, shown⟩ := exists_ofDoubleText finite
  rw [shape] at shown
  cases shown with
  | finite same shows =>
    have shortest := Decimal.moderate_double.isShortest canonical bounded .even
    obtain ⟨short, close⟩ := shows.isExact shortest positive some few near rounds
    obtain ⟨number, scaled, read⟩ := Literal.exists_scaled? (shows.positive shortest.positive) short
      close canonical bounded (shows.value_eq ▸ shortest.rounds)
    rw [text, double?, scaled, Option.some.injEq]
    apply eq_of_unpack
    rw [read, shape, same, signOf_isNegative]

theorem unpack_zero_ofScientific {places : Nat} (near : places ≤ 22) :
    (Float.ofScientific 0 true places).toModel.unpack = .zero .positive := by
  have bound : places < Float.exactlyRepresentablePowersOfTen.size := Nat.lt_succ_of_le near
  obtain ⟨mantissa, exponent, some, same, -, -⟩ := isWorth_power ⟨places, bound⟩
  rw [Float.ofScientific, dif_pos ⟨by decide, near⟩, if_pos rfl]
  change unpack .binary64 (pack .binary64 (div .binary64 (.zero .positive)
    (Float.exactlyRepresentablePowersOfTen[places]).toModel.unpack)) = _
  rw [show (Float.exactlyRepresentablePowersOfTen[places]).toModel.unpack = _ from same]
  change unpack .binary64 (pack .binary64 (.zero (.positive / .positive))) = _
  rfl

/-- A number with few digits is zero, or a decimal with few digits rounds to it. -/
theorem IsShort.parts {x : Float} (short : IsShort x) :
    (∃ sign, x.toModel.unpack = .zero sign) ∨
      ∃ sign mantissa exponent positive, x.toModel.unpack = .finite sign mantissa exponent positive ∧
        ∃ digits places : Nat, 0 < digits ∧ digits < 10 ^ 14 ∧ places ≤ 22 ∧
          Rounds .binary64 (digits / 10 ^ places) mantissa exponent := by
  obtain ⟨digits, places, few, near, same⟩ := short
  rcases Nat.eq_zero_or_pos digits with rfl | positive
  · left
    have zero := unpack_zero_ofScientific near
    rcases same with rfl | rfl
    · exact ⟨_, zero⟩
    · refine ⟨.negative, ?_⟩
      rw [unpack_neg, zero]
      rfl
  · right
    have some : (1 : ℚ) ≤ digits := by exact_mod_cast positive
    have least : (10 : ℚ) ^ places ≤ 10 ^ 22 := pow_le_pow_right₀ (by norm_num) near
    have scale : (1 : ℚ) ≤ 10 ^ places := one_le_pow₀ (by norm_num)
    have large : (2 : ℚ) ^ (-1022 : ℤ) ≤ digits / 10 ^ places := by
      calc (2 : ℚ) ^ (-1022 : ℤ)
          ≤ 2 ^ (-74 : ℤ) := zpow_le_zpow_right₀ one_le_two (by decide)
        _ ≤ 1 / 10 ^ 22 := by norm_num
        _ ≤ digits / 10 ^ places := div_le_div₀ (by positivity) some (by positivity) least
    have small : (digits / 10 ^ places : ℚ) < Decimal.Literal.ceiling :=
      (div_le_self (by positivity) scale).trans_lt (Decimal.Literal.lt_ceiling
        ((Nat.mul_lt_mul_of_pos_left few two_pos).trans (by decide +kernel)))
    obtain ⟨mantissa, exponent, canonical, bounded, rounds, -⟩ :=
      Decimal.Literal.exists_rounds_double large small
    have read :=
      unpack_ofScientific_few positive ⟨few.trans (by decide), near⟩ canonical bounded rounds
    rcases same with rfl | rfl
    · exact ⟨_, _, _, _, read, digits, places, positive, few, near, rounds⟩
    · refine ⟨.negative, mantissa, exponent, canonical.positive, ?_, digits, places, positive, few,
        near, rounds⟩
      rw [unpack_neg, read]
      rfl

theorem IsShort.isFinite {x : Float} (short : IsShort x) : x.isFinite = true := by
  rw [Float.isFinite, Float.Model.isFinite]
  rcases short.parts with ⟨sign, zero⟩ | ⟨sign, mantissa, exponent, positive, shape, -⟩
  · rw [zero]
    rfl
  · rw [shape]
    rfl

/-- Numbers with few digits are read back as they were. -/
theorem IsShort.double? {x : Float} (short : IsShort x) : (ofDoubleText x).double? = some x := by
  have finite := short.isFinite
  rcases short.parts with
    ⟨sign, zero⟩ | ⟨sign, mantissa, exponent, positive, shape, digits, places, some, few, near, rounds⟩
  · exact double?_zero finite zero
  · exact double?_finite finite shape some few near rounds

end Json

end LightingDesk
