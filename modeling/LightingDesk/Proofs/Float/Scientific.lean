import LightingDesk.Proofs.Float.Arithmetic

/-!
Decimal fractions become the number of the format that they round to, in double and in single precision.
-/

namespace LightingDesk.Floats

open Float.Model (Format totalExponent)
open Float.Model.UnpackedFloat

variable {spec : Format} {mantissa : Nat} {exponent : ℤ}

/-- The unpacked number is finite and positive, with so many bits at least, and it has the value. -/
def IsWorth (bits : Nat) (number : Float.Model.UnpackedFloat) (value : ℚ) : Prop :=
  ∃ mantissa exponent positive, number = .finite .positive mantissa exponent positive ∧
    2 ^ bits ≤ mantissa ∧ (mantissa * 2 ^ exponent : ℚ) = value

namespace IsWorth

variable {bits others : Nat} {number other : Float.Model.UnpackedFloat} {value worth : ℚ}

theorem div_eq (first : IsWorth bits number value) (second : IsWorth others other worth)
    (canonical : Canonical spec mantissa exponent)
    (rounds : Rounds spec (value / worth) mantissa exponent) :
    div spec number other = .finite .positive mantissa exponent canonical.positive := by
  obtain ⟨_, _, some, rfl, -, rfl⟩ := first
  obtain ⟨_, _, more, rfl, -, rfl⟩ := second
  exact Floats.div_eq some more canonical rounds .positive .positive

theorem mul_eq (first : IsWorth bits number value) (second : IsWorth others other worth)
    (full : spec.mantissaBitsWithoutImplicit ≤ bits + others)
    (canonical : Canonical spec mantissa exponent)
    (rounds : Rounds spec (value * worth) mantissa exponent) :
    mul spec number other = .finite .positive mantissa exponent canonical.positive := by
  obtain ⟨_, _, some, rfl, long, rfl⟩ := first
  obtain ⟨_, _, more, rfl, longer, rfl⟩ := second
  refine Floats.mul_eq some more ?_ canonical rounds .positive .positive
  calc 2 ^ spec.mantissaBitsWithoutImplicit
      ≤ 2 ^ (bits + others) := Nat.pow_le_pow_right (by decide) full
    _ = 2 ^ bits * 2 ^ others := Nat.pow_add ..
    _ ≤ _ := Nat.mul_le_mul long longer

end IsWorth

/-- A fraction of a power of ten, unless it is too small by far. -/
theorem ofScientific_eq {digits power : Nat} (positive : 0 < digits) (behind : 0 < power)
    (inside : power ≤ 2 ^ spec.exponentBits + digits.log2)
    (canonical : Canonical spec mantissa exponent)
    (rounds : Rounds spec (digits / 10 ^ power) mantissa exponent) :
    ofScientific spec digits (Int.negOfNat power) =
      .finite .positive mantissa exponent canonical.positive := by
  have negative : Int.negOfNat power = -(power : ℤ) := by
    rw [Int.negOfNat_eq]
    rfl
  have within : ¬-(power : ℤ) < -(2 ^ spec.exponentBits + (digits.log2 : ℤ)) := by
    have inside : (power : ℤ) ≤ 2 ^ spec.exponentBits + digits.log2 := by exact_mod_cast inside
    omega
  have small : ¬-(power : ℤ) > 2 ^ spec.exponentBits := by
    have some : (0 : ℤ) < 2 ^ spec.exponentBits := by positivity
    omega
  rw [ofScientific, dif_neg positive.ne', negative, if_neg small, if_neg within, if_neg (by omega)]
  have size : (-(-(power : ℤ))).toNat = power := by omega
  have first : IsWorth 0 (.finite .positive digits 0 positive) digits :=
    ⟨_, _, positive, rfl, positive, by simp⟩
  have second (some : 0 < 10 ^ (-(-(power : ℤ))).toNat) :
      IsWorth 0 (.finite .positive (10 ^ (-(-(power : ℤ))).toNat) 0 some) (10 ^ power) :=
    ⟨_, _, some, rfl, some, by simp⟩
  exact first.div_eq (second _) canonical rounds

/-- A multiple of a power of ten, unless it is too large by far. -/
theorem ofScientific_whole_eq {digits power : Nat} (positive : 0 < digits)
    (inside : power ≤ 2 ^ spec.exponentBits) (canonical : Canonical spec mantissa exponent)
    (rounds : Rounds spec (digits * 10 ^ power) mantissa exponent) :
    ofScientific spec digits (Int.ofNat power) =
      .finite .positive mantissa exponent canonical.positive := by
  have inside : (power : ℤ) ≤ 2 ^ spec.exponentBits := by exact_mod_cast inside
  have small : ¬(power : ℤ) < -(2 ^ spec.exponentBits + (digits.log2 : ℤ)) := by
    have some : (0 : ℤ) < 2 ^ spec.exponentBits := by positivity
    omega
  rw [ofScientific, dif_neg positive.ne', Int.ofNat_eq_natCast, if_neg (by omega), if_neg small,
    if_pos (by omega)]
  have scale := Nat.two_pow_pos spec.mantissaBits
  have first (some : 0 < digits <<< spec.mantissaBits) :
      IsWorth spec.mantissaBitsWithoutImplicit
        (.finite .positive (digits <<< spec.mantissaBits) (-spec.mantissaBits) some) digits := by
    refine ⟨_, _, some, rfl, ?_, ?_⟩
    · rw [Nat.shiftLeft_eq, Format.mantissaBits]
      exact (Nat.pow_le_pow_right (by decide) (by omega)).trans (Nat.le_mul_of_pos_left _ positive)
    · rw [Nat.shiftLeft_eq, zpow_neg, zpow_natCast]
      push_cast
      field_simp
  have second (some : 0 < 10 ^ (power : ℤ).toNat) :
      IsWorth 0 (.finite .positive (10 ^ (power : ℤ).toNat) 0 some) (10 ^ power) :=
    ⟨_, _, some, rfl, some, by simp⟩
  exact (first _).mul_eq (second _) (by omega) canonical rounds

/-- Whole numbers with few digits are kept exactly. -/
theorem isWorth_ofNat (room : spec.mantissaBitsWithoutImplicit ≤ spec.exponentBias) {number : Nat}
    (positive : 0 < number) (below : number < 2 ^ spec.mantissaBits) :
    IsWorth spec.mantissaBitsWithoutImplicit (unpack spec (pack spec (ofNat spec number))) number := by
  obtain ⟨mantissa, exponent, canonical, bounded, full, same⟩ := exists_canonical room positive below
  have rounds := Rounds.self spec mantissa exponent
  rw [same] at rounds
  refine ⟨mantissa, exponent, canonical.positive, ?_, full, same⟩
  rw [ofNat_eq canonical rounds positive, unpack_pack canonical.positive canonical bounded]

/-- The value of an unpacked number as a fraction of whole numbers, if it is finite and positive. -/
def fraction? : Float.Model.UnpackedFloat → Option (Nat × Nat)
  | .finite .positive mantissa exponent _ => some (mantissa * 2 ^ exponent.toNat, 2 ^ (-exponent).toNat)
  | _ => none

theorem isWorth_of_fraction? {number : Float.Model.UnpackedFloat} {numerator denominator whole : Nat}
    (found : fraction? number = some (numerator, denominator))
    (same : numerator = whole * denominator) : IsWorth 0 number whole := by
  cases number with
  | notANumber => cases found
  | infinity => cases found
  | zero => cases found
  | finite sign mantissa exponent positive =>
    cases sign with
    | negative => cases found
    | positive =>
      cases found
      refine ⟨mantissa, exponent, positive, rfl, positive, ?_⟩
      have split := zpow_mul_pow (two_ne_zero : (2 : ℚ) ≠ 0) exponent
      have unit : (2 : ℚ) ^ (-exponent).toNat ≠ 0 := by positivity
      have same : (mantissa : ℚ) * 2 ^ exponent.toNat = whole * 2 ^ (-exponent).toNat := by
        exact_mod_cast same
      rw [← split, ← mul_assoc] at same
      exact mul_right_cancel₀ unit same

/-! ### Double precision -/

theorem unpack_toFloat {whole : Nat} (positive : 0 < whole) (below : whole < 2 ^ 53) :
    IsWorth 52 whole.toUInt64.toFloat.toModel.unpack whole := by
  have same : whole.toUInt64.toNat = whole := by
    rw [UInt64.toNat_ofNat']
    exact Nat.mod_eq_of_lt (by omega)
  change IsWorth 52 (unpack .binary64 (pack .binary64 (ofNat .binary64 whole.toUInt64.toNat))) _
  rw [same]
  exact isWorth_ofNat (by decide) positive below

theorem isWorth_power (power : Fin 23) :
    IsWorth 0 (Float.exactlyRepresentablePowersOfTen[power]).toModel.unpack
      ((10 ^ power.val : Nat) : ℚ) := by
  have all : ∀ power : Fin 23,
      (fraction? (Float.exactlyRepresentablePowersOfTen[power]).toModel.unpack).any
        fun fraction => fraction.1 = 10 ^ power.val * fraction.2 := by
    decide +kernel
  obtain ⟨⟨numerator, denominator⟩, found, same⟩ := (Option.any_eq_true _ _).1 (all power)
  exact isWorth_of_fraction? found (of_decide_eq_true same)

/-- Few digits are divided by a power of ten that is kept exactly. -/
theorem unpack_ofScientific_few {digits power : Nat} (positive : 0 < digits)
    (few : digits < 2 ^ 53 ∧ power ≤ 22)
    (canonical : Canonical .binary64 mantissa exponent) (bounded : Bounded .binary64 exponent)
    (rounds : Rounds .binary64 (digits / 10 ^ power) mantissa exponent) :
    (Float.ofScientific digits true power).toModel.unpack =
      .finite .positive mantissa exponent canonical.positive := by
  have bound : power < Float.exactlyRepresentablePowersOfTen.size := Nat.lt_succ_of_le few.2
  have scale : IsWorth 0 (Float.exactlyRepresentablePowersOfTen[power]).toModel.unpack _ :=
    isWorth_power ⟨power, bound⟩
  rw [Float.ofScientific, dif_pos few, if_pos rfl]
  change unpack .binary64 (pack .binary64 (div .binary64 _ _)) = _
  rw [(unpack_toFloat positive few.1).div_eq scale canonical (by exact_mod_cast rounds)]
  exact unpack_pack canonical.positive canonical bounded

theorem unpack_ofScientific {digits power : Nat} (positive : 0 < digits) (behind : 0 < power)
    (inside : power ≤ 2 ^ Format.binary64.exponentBits + digits.log2)
    (canonical : Canonical .binary64 mantissa exponent) (bounded : Bounded .binary64 exponent)
    (rounds : Rounds .binary64 (digits / 10 ^ power) mantissa exponent) :
    (Float.ofScientific digits true power).toModel.unpack =
      .finite .positive mantissa exponent canonical.positive := by
  by_cases few : digits < 2 ^ 53 ∧ power ≤ 22
  · exact unpack_ofScientific_few positive few canonical bounded rounds
  · rw [Float.ofScientific, dif_neg few]
    change unpack .binary64 (pack .binary64 (ofScientific .binary64 digits (Int.negOfNat power))) = _
    rw [ofScientific_eq positive behind inside canonical rounds]
    exact unpack_pack canonical.positive canonical bounded

theorem unpack_ofScientific_whole {digits power : Nat} (positive : 0 < digits)
    (inside : power ≤ 2 ^ Format.binary64.exponentBits)
    (canonical : Canonical .binary64 mantissa exponent) (bounded : Bounded .binary64 exponent)
    (rounds : Rounds .binary64 (digits * 10 ^ power) mantissa exponent) :
    (Float.ofScientific digits false power).toModel.unpack =
      .finite .positive mantissa exponent canonical.positive := by
  have packed : unpack .binary64 (pack .binary64 (.finite .positive mantissa exponent
      canonical.positive)) = .finite .positive mantissa exponent canonical.positive :=
    unpack_pack canonical.positive canonical bounded
  rw [Float.ofScientific]
  split
  next small =>
    have bound : power < Float.exactlyRepresentablePowersOfTen.size := Nat.lt_succ_of_le small.2
    have scale : IsWorth 0 (Float.exactlyRepresentablePowersOfTen[power]).toModel.unpack _ :=
      isWorth_power ⟨power, bound⟩
    rw [if_neg Bool.false_ne_true]
    change unpack .binary64 (pack .binary64 (mul .binary64 _ _)) = _
    rw [(unpack_toFloat positive small.1).mul_eq scale (by decide) canonical
      (by exact_mod_cast rounds)]
    exact packed
  next large =>
    change unpack .binary64 (pack .binary64 (ofScientific .binary64 digits (Int.ofNat power))) = _
    rw [ofScientific_whole_eq positive inside canonical rounds]
    exact packed

/-! ### Single precision -/

theorem unpack_toFloat32 {whole : Nat} (positive : 0 < whole) (below : whole < 2 ^ 24) :
    IsWorth 23 whole.toUInt64.toFloat32.toModel.unpack whole := by
  have same : whole.toUInt64.toNat = whole := by
    rw [UInt64.toNat_ofNat']
    exact Nat.mod_eq_of_lt (by omega)
  change IsWorth 23 (unpack .binary32 (pack .binary32 (ofNat .binary32 whole.toUInt64.toNat))) _
  rw [same]
  exact isWorth_ofNat (by decide) positive below

theorem isWorth_power_single (power : Fin 11) :
    IsWorth 0 (Float32.exactlyRepresentablePowersOfTen[power]).toModel.unpack
      ((10 ^ power.val : Nat) : ℚ) := by
  have all : ∀ power : Fin 11,
      (fraction? (Float32.exactlyRepresentablePowersOfTen[power]).toModel.unpack).any
        fun fraction => fraction.1 = 10 ^ power.val * fraction.2 := by
    decide +kernel
  obtain ⟨⟨numerator, denominator⟩, found, same⟩ := (Option.any_eq_true _ _).1 (all power)
  exact isWorth_of_fraction? found (of_decide_eq_true same)

theorem unpack_ofScientific_single {digits power : Nat} (positive : 0 < digits) (behind : 0 < power)
    (inside : power ≤ 2 ^ Format.binary32.exponentBits + digits.log2)
    (canonical : Canonical .binary32 mantissa exponent) (bounded : Bounded .binary32 exponent)
    (rounds : Rounds .binary32 (digits / 10 ^ power) mantissa exponent) :
    (Float32.ofScientific digits true power).toModel.unpack =
      .finite .positive mantissa exponent canonical.positive := by
  have packed : unpack .binary32 (pack .binary32 (.finite .positive mantissa exponent
      canonical.positive)) = .finite .positive mantissa exponent canonical.positive :=
    unpack_pack canonical.positive canonical bounded
  rw [Float32.ofScientific]
  split
  next small =>
    have bound : power < Float32.exactlyRepresentablePowersOfTen.size := Nat.lt_succ_of_le small.2
    have scale : IsWorth 0 (Float32.exactlyRepresentablePowersOfTen[power]).toModel.unpack _ :=
      isWorth_power_single ⟨power, bound⟩
    rw [if_pos rfl]
    change unpack .binary32 (pack .binary32 (div .binary32 _ _)) = _
    rw [(unpack_toFloat32 positive (small.1.trans (by decide))).div_eq scale canonical (by exact_mod_cast rounds)]
    exact packed
  next large =>
    change unpack .binary32 (pack .binary32 (ofScientific .binary32 digits (Int.negOfNat power))) = _
    rw [ofScientific_eq positive behind inside canonical rounds]
    exact packed

end LightingDesk.Floats
