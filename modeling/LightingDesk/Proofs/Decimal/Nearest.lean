import LightingDesk.Proofs.Decimal.Shortest
import LightingDesk.Proofs.Float.Scientific

/-!
Numbers that are written out are read as the nearest number of a format: any number that rounds to it is
read as it.
-/

namespace LightingDesk

open Float.Model (Format)
open Float.Model.UnpackedFloat
open Floats

namespace Floats

/-- The sign of a number. -/
def signOf (negative : Bool) : Sign := if negative then .negative else .positive

theorem signOf_isNegative (sign : Sign) : signOf (isNegative sign) = sign := by
  cases sign <;> rfl

/-! ### Numbers of a precision -/

theorem wide_double : Wide .binary64 := (by decide : 2 ≤ 11)

theorem wide_single : Wide .binary32 := (by decide : 2 ≤ 8)

theorem eq_of_unpack {x y : Float} (same : x.toModel.unpack = y.toModel.unpack) : x = y := by
  obtain ⟨⟨bits, valid⟩⟩ := x
  obtain ⟨⟨others, right⟩⟩ := y
  obtain rfl : bits = others := UInt64.eq_of_toBitVec_eq (unpack_injective wide_double valid right same)
  rfl

theorem eq_of_unpack_single {x y : Float32} (same : x.toModel.unpack = y.toModel.unpack) :
    x = y := by
  obtain ⟨⟨bits, valid⟩⟩ := x
  obtain ⟨⟨others, right⟩⟩ := y
  obtain rfl : bits = others := UInt32.eq_of_toBitVec_eq (unpack_injective wide_single valid right same)
  rfl

theorem unpack_neg (x : Float) : (-x).toModel.unpack = x.toModel.unpack.neg :=
  unpack_pack_neg wide_double _

theorem unpack_neg_single (x : Float32) : (-x).toModel.unpack = x.toModel.unpack.neg :=
  unpack_pack_neg wide_single _

end Floats

namespace Decimal

/-! ### Values -/

/-- The value of a decimal. -/
def Scaled.value (number : Scaled) : ℚ := number.digits * 10 ^ number.exponent

/-- The value of a number that is written out, without its sign. -/
def Literal.value (literal : Literal) : ℚ := literal.digits * 10 ^ literal.lastPower

/-- The number that is written out for a decimal has its value. -/
theorem Literal.Shows.value_eq {literal : Literal} {number : Scaled} (shows : literal.Shows number) :
    literal.value = number.value := by
  obtain ⟨shift, digits, power, -⟩ := shows
  rw [Literal.value, Scaled.value, digits, power, zpow_sub₀ (by norm_num), zpow_natCast, Nat.pow_eq]
  push_cast
  field_simp

/-- Formats whose shortest decimals are found, and have no more digits behind the point than powers of
ten are computed for. -/
structure Moderate (spec : Format) : Prop where
  wide : Wide spec
  short : spec.mantissaBits ≤ 64
  least : -1200 ≤ spec.minExponent
  most : (2 ^ spec.exponentBits : ℤ) ≤ 1001 + spec.exponentBias + spec.mantissaBitsWithoutImplicit
  deep : -(2 ^ spec.exponentBits : ℤ) ≤ Binary.finePower spec.minExponent

theorem moderate_double : Moderate .binary64 :=
  ⟨wide_double, by decide, by decide, by decide, by decide⟩

theorem moderate_single : Moderate .binary32 :=
  ⟨wide_single, by decide, by decide, by decide, by decide⟩

/-- A number of a format as it is written. -/
def Binary.ofParts (spec : Format) (mantissa : Nat) (exponent : ℤ) : Binary :=
  ⟨mantissa, exponent,
    decide (mantissa = 2 ^ spec.mantissaBitsWithoutImplicit ∧ spec.minExponent < exponent)⟩

/-- The decimal rounds to the number of the format, and no decimal with a larger power of ten does. -/
structure Scaled.IsShortest (number : Scaled) (spec : Format) (mantissa : Nat) (exponent : ℤ) :
    Prop where
  positive : 0 < number.digits
  rounds : Rounds spec number.value mantissa exponent
  coarsest : ∀ other : Scaled, 0 < other.digits → Rounds spec other.value mantissa exponent →
    other.exponent ≤ number.exponent

theorem Moderate.isShortest {spec : Format} (moderate : Moderate spec) {mantissa : Nat}
    {exponent : ℤ} (canonical : Canonical spec mantissa exponent) (bounded : Bounded spec exponent)
    (tie : Tie) :
    ((Binary.ofParts spec mantissa exponent).shortest tie).IsShortest spec mantissa exponent := by
  obtain ⟨-, short, least, most, -⟩ := moderate
  have reach : (Binary.ofParts spec mantissa exponent).InReach := by
    have small : mantissa < 2 ^ 64 :=
      canonical.below.trans_le (Nat.pow_le_pow_right (by decide) short)
    refine ⟨canonical.positive, (Nat.log2_lt canonical.positive.ne').2 small,
      least.trans canonical.least, ?_⟩
    unfold Bounded at bounded
    change exponent ≤ 1000
    omega
  obtain ⟨point, power, same, positive, covers, coarsest⟩ := reach.exists_shortest tie
  rw [same]
  exact ⟨positive, covers.rounds rfl, fun other some rounds =>
    coarsest other.digits other.exponent some (.of_rounds rounds rfl)⟩

namespace Scaled.IsShortest

variable {number : Scaled} {spec : Format} {mantissa : Nat} {exponent : ℤ}

/-- A decimal just above the number rounds to it, so that the shortest one is no finer than that. -/
theorem fine (shortest : number.IsShortest spec mantissa exponent) :
    (2 : ℚ) ^ (exponent - 2) < 10 ^ (number.exponent + 1) := by
  have unit : (0 : ℚ) < 2 ^ exponent := by positivity
  have quarter := Floats.two_zpow_sub_two exponent
  obtain ⟨power, least, most⟩ :=
    exists_mem_Ico_zpow (show (0 : ℚ) < 2 ^ (exponent - 2) by positivity) (by norm_num : (1 : ℚ) < 10)
  have grid : (0 : ℚ) < 10 ^ power := by positivity
  have below := Nat.floor_le (show (0 : ℚ) ≤ mantissa * 2 ^ exponent / 10 ^ power by positivity)
  have above := Nat.lt_floor_add_one (mantissa * 2 ^ exponent / 10 ^ power : ℚ)
  rw [le_div_iff₀ grid] at below
  rw [div_lt_iff₀ grid] at above
  have rounds : Rounds spec (Scaled.mk (⌊(mantissa * 2 ^ exponent / 10 ^ power : ℚ)⌋₊ + 1) power).value
      mantissa exponent := by
    unfold Scaled.value
    push_cast
    refine ⟨?_, ?_, fun _ _ => ?_, fun _ => ⟨?_, ?_⟩⟩ <;> linarith
  have place := shortest.coarsest _ (Nat.succ_pos _) rounds
  exact most.trans_le (zpow_le_zpow_right₀ (by norm_num) (by simpa using place))

/-- The shortest decimal has about as many digits as the mantissa. -/
theorem digits_lt (shortest : number.IsShortest spec mantissa exponent) :
    number.digits < 10 * (4 * mantissa + 2) := by
  have unit : (0 : ℚ) < 10 ^ number.exponent := by positivity
  have split : (2 : ℚ) ^ exponent = 4 * 2 ^ (exponent - 2) := by
    rw [Floats.two_zpow_sub_two]
    ring
  have fine := shortest.fine
  rw [zpow_add_one₀ (by norm_num)] at fine
  have upper := shortest.rounds.upper
  rw [Scaled.value, split] at upper
  have scaled : (number.digits : ℚ) * 10 ^ number.exponent <
      (10 * (4 * mantissa + 2)) * 10 ^ number.exponent := by
    nlinarith
  exact_mod_cast lt_of_mul_lt_mul_right scaled unit.le

/-- The last digit of the shortest decimal is not further behind the point than powers of ten are
computed for. -/
theorem deep (shortest : number.IsShortest spec mantissa exponent) (moderate : Moderate spec)
    (canonical : Canonical spec mantissa exponent) :
    -(2 ^ spec.exponentBits : ℤ) ≤ number.exponent := by
  have powers := (zpow_lt_zpow_iff_right₀ (by norm_num : (1 : ℚ) < 10)).1
    ((Binary.ten_zpow_finePower exponent).trans_lt shortest.fine)
  have deep := moderate.deep
  have least := canonical.least
  unfold Binary.finePower at deep powers
  omega

end Scaled.IsShortest

end Decimal

namespace Decimal.Literal

variable {literal : Literal} {mantissa : Nat} {exponent : ℤ}

theorem value_of_fraction (behind : literal.lastPower < 0) :
    literal.value = literal.digits / 10 ^ literal.lastPower.natAbs := by
  have turned : literal.lastPower = -(literal.lastPower.natAbs : ℤ) := by omega
  rw [value, div_eq_mul_inv, ← zpow_natCast, ← zpow_neg, ← turned]

/-- Digits behind the point, not too far from it, of a number that is not zero. -/
structure IsFraction (literal : Literal) (spec : Format) : Prop where
  positive : 0 < literal.digits
  near : -400 ≤ literal.firstPower
  behind : literal.lastPower < 0
  inside : literal.lastPower.natAbs ≤ 2 ^ spec.exponentBits

/-- A number with digits behind the point that rounds to a double is read as that double. -/
theorem IsFraction.unpack_toFloat (fraction : literal.IsFraction .binary64)
    (canonical : Canonical .binary64 mantissa exponent) (bounded : Bounded .binary64 exponent)
    (rounds : Rounds .binary64 literal.value mantissa exponent) :
    literal.toFloat.toModel.unpack =
      .finite (signOf literal.negative) mantissa exponent canonical.positive := by
  obtain ⟨positive, near, behind, inside⟩ := fraction
  rw [value_of_fraction behind] at rounds
  have size := unpack_ofScientific positive (by omega) (by omega) canonical bounded rounds
  rw [toFloat]
  simp only [if_neg (show ¬(literal.digits = 0 ∨ literal.firstPower < -400) by omega),
    if_neg (show ¬400 < literal.lastPower by omega), decide_eq_true behind]
  cases literal.negative with
  | false => exact size
  | true =>
    rw [if_pos rfl, unpack_neg, size]
    rfl

theorem IsFraction.unpack_toFloat32 (fraction : literal.IsFraction .binary32)
    (canonical : Canonical .binary32 mantissa exponent) (bounded : Bounded .binary32 exponent)
    (rounds : Rounds .binary32 literal.value mantissa exponent) :
    literal.toFloat32.toModel.unpack =
      .finite (signOf literal.negative) mantissa exponent canonical.positive := by
  obtain ⟨positive, near, behind, inside⟩ := fraction
  rw [value_of_fraction behind] at rounds
  have size := unpack_ofScientific_single positive (by omega) (by omega) canonical bounded rounds
  rw [toFloat32]
  simp only [if_neg (show ¬(literal.digits = 0 ∨ literal.firstPower < -400) by omega),
    if_neg (show ¬400 < literal.lastPower by omega), decide_eq_true behind]
  cases literal.negative with
  | false => exact size
  | true =>
    rw [if_pos rfl, unpack_neg_single, size]
    rfl

end Decimal.Literal

namespace Decimal.Reading

/-- A reading that is read as the number in a format. -/
inductive Gives (spec : Format) : Reading → Float.Model.UnpackedFloat → Prop
  | notANumber : Gives spec .notANumber .notANumber
  | infinite (sign : Sign) : Gives spec (.infinite (isNegative sign)) (.infinity sign)
  | zero {literal : Literal} {sign : Sign} (same : literal.negative = isNegative sign)
      (digits : literal.digits = 0) : Gives spec (.finite literal) (.zero sign)
  | finite {literal : Literal} {sign : Sign} {mantissa : Nat} {exponent : ℤ}
      (same : literal.negative = isNegative sign) (fraction : literal.IsFraction spec)
      (canonical : Canonical spec mantissa exponent) (bounded : Bounded spec exponent)
      (rounds : Rounds spec literal.value mantissa exponent) :
      Gives spec (.finite literal) (.finite sign mantissa exponent canonical.positive)

variable {reading : Reading} {number : Float.Model.UnpackedFloat}

theorem Gives.unpack_toFloat (gives : reading.Gives .binary64 number) :
    reading.toFloat.toModel.unpack = number := by
  cases gives with
  | notANumber => rfl
  | infinite sign => cases sign <;> rfl
  | @zero literal sign same digits =>
    simp only [toFloat, Literal.toFloat, digits, true_or, if_true, same]
    cases sign <;> rfl
  | finite same fraction canonical bounded rounds =>
    rw [toFloat, fraction.unpack_toFloat canonical bounded rounds, same, signOf_isNegative]

theorem Gives.unpack_toFloat32 (gives : reading.Gives .binary32 number) :
    reading.toFloat32.toModel.unpack = number := by
  cases gives with
  | notANumber => rfl
  | infinite sign => cases sign <;> rfl
  | @zero literal sign same digits =>
    simp only [toFloat32, Literal.toFloat32, digits, true_or, if_true, same]
    cases sign <;> rfl
  | finite same fraction canonical bounded rounds =>
    rw [toFloat32, fraction.unpack_toFloat32 canonical bounded rounds, same, signOf_isNegative]

end Decimal.Reading

end LightingDesk
