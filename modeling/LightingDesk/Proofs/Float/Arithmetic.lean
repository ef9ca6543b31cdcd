import LightingDesk.Proofs.Float.Rounding

/-!
Division and conversion of whole numbers give the number of the format that the exact result rounds to.
-/

namespace LightingDesk.Floats

open Float.Model (Format totalExponent)
open Float.Model.UnpackedFloat

variable {spec : Format} {mantissa : Nat} {exponent : ℤ}

/-! ### Division -/

/-- A quotient and the accuracy of its fraction tell the exact quotient. -/
theorem tells_div (numerator : Nat) {denominator : Nat} (positive : 0 < denominator) :
    Tells (.ofMantissaAndAccuracy (numerator / denominator)
      (accuracyOfFraction (numerator % denominator) denominator))
      (numerator / denominator : ℚ) := by
  have some : (0 : ℚ) < denominator := by exact_mod_cast positive
  have split : (numerator : ℚ) / denominator =
      (numerator / denominator : Nat) + (numerator % denominator : Nat) / denominator := by
    have parts : (numerator : ℚ) = denominator * (numerator / denominator : Nat) +
        (numerator % denominator : Nat) := by
      exact_mod_cast (Nat.div_add_mod numerator denominator).symm
    field_simp
    linarith
  have least : (0 : ℚ) ≤ (numerator % denominator : Nat) / denominator := by positivity
  have below : ((numerator % denominator : Nat) : ℚ) / denominator < 1 := by
    rw [div_lt_one some]
    exact_mod_cast Nat.mod_lt numerator positive
  rw [split, accuracyOfFraction]
  generalize numerator % denominator = rest at *
  by_cases exact : rest = 0
  · rw [if_pos exact, exact]
    simp [Tells, ExtendedMantissa.ofMantissaAndAccuracy]
  · have more : (0 : ℚ) < (rest : ℚ) / denominator :=
      div_pos (by exact_mod_cast Nat.pos_of_ne_zero exact) some
    rw [if_neg exact]
    rcases Nat.lt_trichotomy (2 * rest) denominator with less | same | greater
    · have half : (rest : ℚ) / denominator < 1 / 2 := by
        rw [div_lt_div_iff₀ some two_pos, one_mul, mul_comm]
        exact_mod_cast less
      rw [Nat.compare_eq_lt.2 less]
      simp only [Tells, ExtendedMantissa.ofMantissaAndAccuracy]
      constructor <;> linarith
    · have half : (rest : ℚ) / denominator = 1 / 2 := by
        rw [div_eq_div_iff some.ne' two_ne_zero, one_mul, mul_comm]
        exact_mod_cast same
      rw [Nat.compare_eq_eq.2 same]
      simp only [Tells, ExtendedMantissa.ofMantissaAndAccuracy]
      linarith
    · have half : 1 / 2 < (rest : ℚ) / denominator := by
        rw [div_lt_div_iff₀ two_pos some, one_mul, mul_comm (rest : ℚ)]
        exact_mod_cast greater
      rw [Nat.compare_eq_gt.2 greater]
      simp only [Tells, ExtendedMantissa.ofMantissaAndAccuracy]
      constructor <;> linarith

/-- Any target exponent of a smaller total exponent is not larger. -/
theorem targetExponent_mono (spec : Format) {less more : ℤ} (le : less ≤ more) :
    spec.targetExponent less ≤ spec.targetExponent more := by
  rw [Format.targetExponent, Format.targetExponent]
  omega

/-- A quotient has about as many bits as the operands differ by. -/
theorem sub_totalExponent_le {first second : Nat} {one other total : ℤ} (some : 0 < first)
    (more : 0 < second)
    (below : ((first * 2 ^ one) / (second * 2 ^ other) : ℚ) < 2 ^ total) :
    totalExponent first one - totalExponent second other ≤ total := by
  have positive : (0 : ℚ) < second * 2 ^ other :=
    mul_pos (by exact_mod_cast more) (by positivity)
  have numerator : (2 : ℚ) ^ (totalExponent first one - 1) ≤ first * 2 ^ one :=
    totalExponent_le some.ne' (le_of_eq (by field_simp))
  have denominator : (second * 2 ^ other : ℚ) < 2 ^ totalExponent second other :=
    lt_totalExponent (by field_simp; linarith)
  rw [div_lt_iff₀ positive] at below
  have bound : (2 : ℚ) ^ (totalExponent first one - 1) <
      2 ^ (total + totalExponent second other) := by
    rw [zpow_add₀ two_ne_zero]
    calc (2 : ℚ) ^ (totalExponent first one - 1)
        ≤ first * 2 ^ one := numerator
      _ < 2 ^ total * (second * 2 ^ other) := below
      _ ≤ 2 ^ total * 2 ^ totalExponent second other :=
          mul_le_mul_of_nonneg_left denominator.le (by positivity)
  have powers := (zpow_lt_zpow_iff_right₀ one_lt_two).1 bound
  omega

theorem div_eq {first second : Nat} {one other : ℤ} (some : 0 < first) (more : 0 < second)
    (canonical : Canonical spec mantissa exponent)
    (rounds : Rounds spec ((first * 2 ^ one) / (second * 2 ^ other)) mantissa exponent)
    (sign divisor : Sign) :
    div spec (.finite sign first one some) (.finite divisor second other more) =
      .finite (sign / divisor) mantissa exponent canonical.positive := by
  rw [div, divCore]
  dsimp only
  generalize shape : min (one - other)
    (spec.targetExponent (totalExponent first one - totalExponent second other)) = target
  have le : target ≤ one - other := by omega
  have tells := tells_div (first <<< (one - other - target).toNat) more
  have same : ((first <<< (one - other - target).toNat : Nat) : ℚ) / second =
      (first * 2 ^ one) / (second * 2 ^ other) / 2 ^ target := by
    have split : (2 : ℚ) ^ one = 2 ^ other * 2 ^ target * 2 ^ (one - other - target).toNat := by
      rw [← zpow_natCast, ← zpow_add₀ two_ne_zero, ← zpow_add₀ two_ne_zero]
      congr 1
      omega
    have unit : (2 : ℚ) ^ other ≠ 0 := by positivity
    have goal : (2 : ℚ) ^ target ≠ 0 := by positivity
    have divisor : (second : ℚ) ≠ 0 := by exact_mod_cast more.ne'
    rw [Nat.shiftLeft_eq, split]
    push_cast
    field_simp
  rw [same] at tells
  refine roundWithAccuracy_eq canonical rounds tells ?_ _
  have within := tells.within.2
  rw [mantissa_ofMantissaAndAccuracy] at within
  have short : target ≤
      spec.targetExponent (totalExponent first one - totalExponent second other) := by omega
  exact short.trans (targetExponent_mono spec
    (sub_totalExponent_le some more (lt_totalExponent within)))

/-! ### Multiplication -/

/-- A product of two numbers, as long as it has all the bits of a mantissa. -/
theorem mul_eq {first second : Nat} {one other : ℤ} (some : 0 < first) (more : 0 < second)
    (full : 2 ^ spec.mantissaBitsWithoutImplicit ≤ first * second)
    (canonical : Canonical spec mantissa exponent)
    (rounds : Rounds spec ((first * 2 ^ one) * (second * 2 ^ other)) mantissa exponent)
    (sign factor : Sign) :
    mul spec (.finite sign first one some) (.finite factor second other more) =
      .finite (sign * factor) mantissa exponent canonical.positive := by
  have same : ((first * second : Nat) : ℚ) =
      (first * 2 ^ one) * (second * 2 ^ other) / 2 ^ (one + other) := by
    rw [zpow_add₀ two_ne_zero]
    push_cast
    field_simp
  have tells := tells_exact (first * second)
  rw [same] at tells
  rw [mul]
  refine roundWithAccuracy_eq canonical rounds tells ?_ _
  have bits : spec.mantissaBits = 1 + spec.mantissaBitsWithoutImplicit := rfl
  have large : spec.mantissaBitsWithoutImplicit ≤ (first * second).log2 :=
    (Nat.le_log2 (Nat.mul_pos some more).ne').2 full
  rw [Format.targetExponent, totalExponent]
  omega

/-! ### Whole numbers -/

namespace Rounds

/-- A number of the format rounds to itself. -/
theorem self (spec : Format) (mantissa : Nat) (exponent : ℤ) :
    Rounds spec (mantissa * 2 ^ exponent) mantissa exponent := by
  have unit : (0 : ℚ) < 2 ^ exponent := by positivity
  refine ⟨?_, ?_, fun _ _ => ?_, fun _ => ⟨?_, ?_⟩⟩ <;> nlinarith

end Rounds

/-- A whole number that has no more bits than a mantissa is one of the format. -/
theorem exists_canonical (room : spec.mantissaBitsWithoutImplicit ≤ spec.exponentBias) {number : Nat}
    (positive : 0 < number) (below : number < 2 ^ spec.mantissaBits) :
    ∃ mantissa exponent, Canonical spec mantissa exponent ∧ Bounded spec exponent ∧
      2 ^ spec.mantissaBitsWithoutImplicit ≤ mantissa ∧
        (mantissa * 2 ^ exponent : ℚ) = number := by
  have some := spec.hm
  have least := minExponent_eq spec
  have bits : spec.mantissaBits = 1 + spec.mantissaBitsWithoutImplicit := rfl
  have short : number.log2 ≤ spec.mantissaBitsWithoutImplicit := by
    have digits := (Nat.log2_lt positive.ne').2 below
    omega
  obtain ⟨shift, total⟩ : ∃ shift, number.log2 + shift = spec.mantissaBitsWithoutImplicit :=
    ⟨_, Nat.add_sub_of_le short⟩
  have low := Nat.log2_self_le positive.ne'
  have high : number < 2 ^ (number.log2 + 1) := Nat.lt_log2_self
  have scale := Nat.two_pow_pos shift
  have full : 2 ^ spec.mantissaBitsWithoutImplicit ≤ number * 2 ^ shift := by
    rw [← total, Nat.pow_add]
    exact Nat.mul_le_mul_right _ low
  refine ⟨number * 2 ^ shift, -shift, ⟨Nat.mul_pos positive scale, ?_, by omega, .inl full⟩, ?_,
    full, ?_⟩
  · rw [bits, Nat.add_comm, ← total, Nat.add_right_comm, Nat.pow_add]
    exact Nat.mul_lt_mul_of_pos_right high scale
  · have capacity : (2 : ℤ) ^ spec.exponentBits = 2 * spec.exponentBias + 2 := by
      exact_mod_cast two_pow_exponentBits spec
    unfold Bounded
    omega
  · rw [zpow_neg, zpow_natCast]
    push_cast
    field_simp

theorem log2_shiftLeft {number : Nat} (positive : number ≠ 0) (count : Nat) :
    (number <<< count).log2 = number.log2 + count := by
  have some := Nat.two_pow_pos count
  have low := Nat.log2_self_le positive
  have high : number < 2 ^ (number.log2 + 1) := Nat.lt_log2_self
  rw [Nat.shiftLeft_eq, Nat.log2_eq_iff (Nat.mul_ne_zero positive some.ne')]
  constructor
  · rw [Nat.pow_add]
    exact Nat.mul_le_mul_right _ low
  · rw [Nat.add_right_comm, Nat.pow_add]
    exact Nat.mul_lt_mul_of_pos_right high some

/-- A whole number becomes the number of the format that it rounds to. -/
theorem ofNat_eq {number : Nat} (canonical : Canonical spec mantissa exponent)
    (rounds : Rounds spec number mantissa exponent) (positive : 0 < number) :
    ofNat spec number = .finite .positive mantissa exponent canonical.positive := by
  have order : compare (number : ℤ) 0 = .gt := by
    rw [Int.compare_eq_gt]
    exact_mod_cast positive
  rw [ofNat, ofInt, Float.Model.UnpackedFloat.normalize, order]
  dsimp only
  rw [Int.toNat_natCast, Float.Model.UnpackedFloat.round, decreaseExponent]
  dsimp only
  generalize shape : spec.targetExponent (totalExponent number 0) = target
  have same : ((number <<< (0 - target).toNat : Nat) : ℚ) =
      number / 2 ^ (0 - ((0 - target).toNat : ℤ)) := by
    rw [Nat.shiftLeft_eq, zpow_sub₀ two_ne_zero, zpow_natCast]
    push_cast
    field_simp
  have tells := tells_exact (number <<< (0 - target).toNat)
  rw [same] at tells
  refine roundWithAccuracy_eq canonical rounds tells ?_ _
  have total : totalExponent (number <<< (0 - target).toNat) (0 - ((0 - target).toNat : ℤ)) =
      totalExponent number 0 := by
    rw [totalExponent, totalExponent, log2_shiftLeft positive.ne']
    push_cast
    ring
  rw [total, shape]
  omega

end LightingDesk.Floats
