import LightingDesk.Proofs.Float.Packing
import Mathlib

/-!
Rounding to the nearest number of a format, and to the even one of two that are equally near. A mantissa
with its residual bits tells where a number lies (`Tells`); shifting keeps this, so that whatever rounds to
a number of the format is what arithmetic rounds to it (`roundWithAccuracy_eq`).
-/

namespace LightingDesk.Floats

open Float.Model (Format totalExponent)
open Float.Model.UnpackedFloat

/-! ### Residual bits -/

/-- What a mantissa and its residual bits say of a number: where behind the mantissa it lies. -/
def Tells (extended : ExtendedMantissa) (x : ℚ) : Prop :=
  match extended.roundBit, extended.stickyBit with
  | false, false => x = extended.mantissa
  | false, true => extended.mantissa < x ∧ x < extended.mantissa + 1 / 2
  | true, false => x = extended.mantissa + 1 / 2
  | true, true => extended.mantissa + 1 / 2 < x ∧ x < extended.mantissa + 1

/-- A number that is nearer to a whole one than to any other, or halfway and that one is even. -/
structure Near (whole : Nat) (x : ℚ) : Prop where
  lower : (whole : ℚ) - 1 / 2 ≤ x
  upper : x ≤ whole + 1 / 2
  strict : whole % 2 = 1 → (whole : ℚ) - 1 / 2 < x ∧ x < whole + 1 / 2

namespace Tells

variable {extended : ExtendedMantissa} {x : ℚ}

theorem within (tells : Tells extended x) :
    (extended.mantissa : ℚ) ≤ x ∧ x < extended.mantissa + 1 := by
  obtain ⟨mantissa, roundBit, stickyBit⟩ := extended
  cases roundBit <;> cases stickyBit <;> simp only [Tells] at tells ⊢
  · constructor <;> linarith
  · constructor <;> linarith
  · constructor <;> linarith
  · constructor <;> linarith

/-- The last bit becomes the round bit, and the bits behind it stick. -/
theorem shiftRightOne (tells : Tells extended x) : Tells extended.shiftRightOne (x / 2) := by
  obtain ⟨mantissa, roundBit, stickyBit⟩ := extended
  have halves : (mantissa : ℚ) = 2 * (mantissa / 2 : Nat) + (mantissa % 2 : Nat) := by
    exact_mod_cast (Nat.div_add_mod mantissa 2).symm
  rcases Nat.mod_two_eq_zero_or_one mantissa with even | odd
  · rw [even] at halves
    cases roundBit <;> cases stickyBit <;>
      simp only [Tells, ExtendedMantissa.shiftRightOne, even, bne_self_eq_false, Bool.or_self,
        Bool.or_true, Bool.or_false, Nat.cast_zero] at tells halves ⊢
    · linarith
    · constructor <;> linarith
    · constructor <;> linarith
    · constructor <;> linarith
  · rw [odd] at halves
    have set : (1 != 0) = true := rfl
    cases roundBit <;> cases stickyBit <;>
      simp only [Tells, ExtendedMantissa.shiftRightOne, odd, set, Bool.or_self, Bool.or_true,
        Bool.or_false, Nat.cast_one] at tells halves ⊢
    · linarith
    · constructor <;> linarith
    · constructor <;> linarith
    · constructor <;> linarith

theorem shiftRight (tells : Tells extended x) (count : Nat) :
    Tells (extended >>> count) (x / 2 ^ count) := by
  change Tells (count.repeat ExtendedMantissa.shiftRightOne extended) (x / 2 ^ count)
  induction count with
  | zero => simpa [Nat.repeat] using tells
  | succ count ih =>
    rw [Nat.repeat, pow_succ, ← div_div]
    exact ih.shiftRightOne

/-- What a mantissa is rounded to is the whole number that is near. -/
theorem roundedMantissa_eq (tells : Tells extended x) {whole : Nat} (near : Near whole x) :
    extended.roundedMantissa = whole := by
  obtain ⟨lower, upper, strict⟩ := near
  obtain ⟨mantissa, roundBit, stickyBit⟩ := extended
  have atMost {bound : Nat} (inside : (whole : ℚ) < bound + 1) : whole ≤ bound :=
    Nat.lt_succ_iff.1 (by exact_mod_cast inside)
  have atLeast {bound : Nat} (inside : (bound : ℚ) < whole + 1) : bound ≤ whole :=
    Nat.lt_succ_iff.1 (by exact_mod_cast inside)
  cases roundBit <;> cases stickyBit <;>
    simp only [Tells, ExtendedMantissa.roundedMantissa, ExtendedMantissa.accuracy,
      Accuracy.roundToNearestEven] at tells ⊢
  · exact Nat.le_antisymm (atLeast (by linarith)) (atMost (by linarith))
  · exact Nat.le_antisymm (atLeast (by linarith)) (atMost (by linarith))
  · -- halfway between two whole numbers, of which the near one is even
    have least : mantissa ≤ whole := atLeast (by linarith)
    have most : whole ≤ mantissa + 1 := atMost (by push_cast; linarith)
    have even : whole % 2 ≠ 1 := by
      intro odd
      obtain ⟨above, below⟩ := strict odd
      have more : mantissa + 1 ≤ whole :=
        Nat.lt_of_le_of_ne least (by rintro rfl; linarith)
      obtain rfl := Nat.le_antisymm more most
      push_cast at above
      linarith
    omega
  · have least : mantissa + 1 ≤ whole := atLeast (by push_cast; linarith)
    have most : whole ≤ mantissa + 1 := atMost (by push_cast; linarith)
    exact Nat.le_antisymm least most

/-- What a mantissa tells after it has been brought to a larger exponent. -/
theorem shiftTo {number : ℚ} {exponent target : ℤ} (tells : Tells extended (number / 2 ^ exponent))
    (le : exponent ≤ target) :
    Tells (extended >>> (target - exponent).toNat) (number / 2 ^ target) := by
  have shifted := tells.shiftRight (target - exponent).toNat
  have split : (2 : ℚ) ^ target = 2 ^ exponent * 2 ^ (target - exponent).toNat := by
    rw [← zpow_natCast, ← zpow_add₀ two_ne_zero]
    congr 1
    omega
  rwa [div_div, ← split] at shifted

end Tells

theorem tells_exact (mantissa : Nat) : Tells (.ofMantissaAndAccuracy mantissa .exact) mantissa := rfl

variable {spec : Format}

/-! ### Exponents -/

theorem shiftToTargetExponent_eq {mantissa : Nat} {exponent target : ℤ}
    (same : spec.targetExponent (totalExponent mantissa exponent) = target) (le : exponent ≤ target)
    (accuracy : Accuracy) :
    shiftToTargetExponent spec mantissa exponent accuracy =
      (ExtendedMantissa.ofMantissaAndAccuracy mantissa accuracy >>> (target - exponent).toNat,
        target) := by
  rw [shiftToTargetExponent, same, shiftToExponent]
  congr 1
  omega

theorem two_zpow_sub_two (exponent : ℤ) : (2 : ℚ) ^ (exponent - 2) = 2 ^ exponent / 4 := by
  rw [zpow_sub₀ two_ne_zero]
  norm_num

theorem two_zpow_add (power : Nat) (exponent : ℤ) :
    (2 : ℚ) ^ ((power : ℤ) + exponent) = 2 ^ power * 2 ^ exponent := by
  rw [zpow_add₀ two_ne_zero, zpow_natCast]

/-- A power with a sign as a quotient of powers without. -/
theorem zpow_mul_pow {base : ℚ} (nonzero : base ≠ 0) (power : ℤ) :
    base ^ power * base ^ (-power).toNat = base ^ power.toNat := by
  rw [← zpow_natCast, ← zpow_natCast, ← zpow_add₀ nonzero]
  congr 1
  omega

/-- The total exponent is that of the first power of two above the number. -/
theorem lt_totalExponent {mantissa : Nat} {exponent : ℤ} {number : ℚ}
    (below : number / 2 ^ exponent < mantissa + 1) :
    number < (2 : ℚ) ^ totalExponent mantissa exponent := by
  have unit : (0 : ℚ) < 2 ^ exponent := by positivity
  have high : ((mantissa + 1 : Nat) : ℚ) ≤ (2 ^ (mantissa.log2 + 1) : Nat) := by
    exact_mod_cast Nat.lt_log2_self
  push_cast at high
  have split := two_zpow_add (mantissa.log2 + 1) exponent
  push_cast at split
  rw [totalExponent, split]
  exact ((div_lt_iff₀ unit).1 below).trans_le (mul_le_mul_of_nonneg_right high unit.le)

theorem totalExponent_le {mantissa : Nat} {exponent : ℤ} {number : ℚ} (positive : mantissa ≠ 0)
    (least : (mantissa : ℚ) ≤ number / 2 ^ exponent) :
    (2 : ℚ) ^ (totalExponent mantissa exponent - 1) ≤ number := by
  have unit : (0 : ℚ) < 2 ^ exponent := by positivity
  have low : ((2 ^ mantissa.log2 : Nat) : ℚ) ≤ mantissa := by
    exact_mod_cast Nat.log2_self_le positive
  push_cast at low
  have before : totalExponent mantissa exponent - 1 = (mantissa.log2 : ℤ) + exponent := by
    rw [totalExponent]
    omega
  rw [before, two_zpow_add]
  exact (mul_le_mul_of_nonneg_right low unit.le).trans ((le_div_iff₀ unit).1 least)

/-! ### Rounding -/

/-- The number is nearer to `mantissa * 2 ^ exponent` than to its neighbours in the format, or halfway
and that mantissa is even. Below the first number of a binade, the neighbour is half as far away. -/
structure Rounds (spec : Format) (number : ℚ) (mantissa : Nat) (exponent : ℤ) : Prop where
  lower : ((mantissa : ℚ) - 1 / 2) * 2 ^ exponent ≤ number
  upper : number ≤ ((mantissa : ℚ) + 1 / 2) * 2 ^ exponent
  narrow : mantissa = 2 ^ spec.mantissaBitsWithoutImplicit → spec.minExponent < exponent →
    ((mantissa : ℚ) - 1 / 4) * 2 ^ exponent ≤ number
  strict : mantissa % 2 = 1 → ((mantissa : ℚ) - 1 / 2) * 2 ^ exponent < number ∧
    number < ((mantissa : ℚ) + 1 / 2) * 2 ^ exponent

namespace Rounds

variable {number : ℚ} {mantissa : Nat} {exponent : ℤ}

theorem near (rounds : Rounds spec number mantissa exponent) :
    Near mantissa (number / 2 ^ exponent) := by
  have unit : (0 : ℚ) < 2 ^ exponent := by positivity
  refine ⟨(le_div_iff₀ unit).2 rounds.lower, (div_le_iff₀ unit).2 rounds.upper, fun odd => ?_⟩
  exact ⟨(lt_div_iff₀ unit).2 (rounds.strict odd).1, (div_lt_iff₀ unit).2 (rounds.strict odd).2⟩

/-- The exponent that rounding starts from is that of the number, or one less just below a binade. -/
theorem target (canonical : Canonical spec mantissa exponent)
    (rounds : Rounds spec number mantissa exponent) {total : ℤ}
    (least : (2 : ℚ) ^ (total - 1) ≤ number) (below : number < (2 : ℚ) ^ total) :
    spec.targetExponent total = exponent ∨
      mantissa = 2 ^ spec.mantissaBitsWithoutImplicit ∧ spec.minExponent < exponent ∧
        spec.targetExponent total = exponent - 1 ∧
        number < mantissa * 2 ^ exponent := by
  have bits : (spec.mantissaBits : ℤ) = 1 + spec.mantissaBitsWithoutImplicit := by
    rw [Format.mantissaBits]
    push_cast
    rfl
  have unit : (0 : ℚ) < 2 ^ exponent := by positivity
  have most : total ≤ spec.mantissaBits + exponent := by
    have full : (mantissa : ℚ) + 1 ≤ 2 ^ spec.mantissaBits := by exact_mod_cast canonical.below
    have inside : number < 2 ^ ((spec.mantissaBits : ℤ) + exponent) := by
      rw [two_zpow_add]
      refine rounds.upper.trans_lt (mul_lt_mul_of_pos_right ?_ unit)
      linarith
    have power := (zpow_lt_zpow_iff_right₀ one_lt_two).1 (least.trans_lt inside)
    omega
  by_cases smallest : exponent = spec.minExponent
  · left
    rw [Format.targetExponent]
    omega
  · have large := canonical.full.resolve_right smallest
    have above := lt_of_le_of_ne canonical.least (Ne.symm smallest)
    by_cases first : mantissa = 2 ^ spec.mantissaBitsWithoutImplicit
    · have positive := spec.hm
      have outside : (2 : ℚ) ^ (((spec.mantissaBitsWithoutImplicit - 1 : Nat) : ℤ) + exponent) <
          2 ^ total := by
        have half : (2 : ℚ) ^ spec.mantissaBitsWithoutImplicit =
            2 * 2 ^ (spec.mantissaBitsWithoutImplicit - 1) := by
          rw [← pow_succ']
          congr 1
          omega
        have some : (1 : ℚ) ≤ 2 ^ (spec.mantissaBitsWithoutImplicit - 1) := one_le_pow₀ one_le_two
        have size : (mantissa : ℚ) = 2 ^ spec.mantissaBitsWithoutImplicit := by exact_mod_cast first
        rw [two_zpow_add]
        refine (le_trans ?_ (rounds.narrow first above)).trans_lt below
        exact mul_le_mul_of_nonneg_right (by linarith) unit.le
      have power := (zpow_lt_zpow_iff_right₀ one_lt_two).1 outside
      rcases Int.lt_or_le (spec.mantissaBitsWithoutImplicit + exponent) total with full | short
      · left
        rw [Format.targetExponent]
        omega
      · obtain rfl : total = spec.mantissaBitsWithoutImplicit + exponent := by omega
        refine .inr ⟨first, above, ?_, ?_⟩
        · rw [Format.targetExponent]
          omega
        · rw [two_zpow_add] at below
          rw [first]
          exact_mod_cast below
    · left
      have more : (2 : ℚ) ^ spec.mantissaBitsWithoutImplicit + 1 ≤ mantissa := by
        exact_mod_cast Nat.lt_of_le_of_ne large (Ne.symm first)
      have outside : (2 : ℚ) ^ ((spec.mantissaBitsWithoutImplicit : ℤ) + exponent) < 2 ^ total := by
        rw [two_zpow_add]
        refine (le_trans ?_ rounds.lower).trans_lt below
        exact mul_le_mul_of_nonneg_right (by linarith) unit.le
      have power := (zpow_lt_zpow_iff_right₀ one_lt_two).1 outside
      rw [Format.targetExponent]
      omega

end Rounds

/-- Rounding in units of the last place. -/
theorem Rounds.of_div {number : ℚ} {mantissa : Nat} {exponent : ℤ}
    (near : Near mantissa (number / 2 ^ exponent))
    (narrow : mantissa = 2 ^ spec.mantissaBitsWithoutImplicit → spec.minExponent < exponent →
      (mantissa : ℚ) - 1 / 4 ≤ number / 2 ^ exponent) :
    Rounds spec number mantissa exponent := by
  have unit : (0 : ℚ) < 2 ^ exponent := by positivity
  exact ⟨(le_div_iff₀ unit).1 near.lower, (div_le_iff₀ unit).1 near.upper,
    fun first above => (le_div_iff₀ unit).1 (narrow first above),
    fun odd => ⟨(lt_div_iff₀ unit).1 (near.strict odd).1, (div_lt_iff₀ unit).1 (near.strict odd).2⟩⟩

/-- A number that is not negative has a whole number just below it or just above that is near. -/
theorem exists_near {number : ℚ} (positive : 0 ≤ number) :
    (Near ⌊number⌋₊ number ∧ (⌊number⌋₊ : ℚ) ≤ number) ∨
      (Near (⌊number⌋₊ + 1) number ∧ (⌊number⌋₊ : ℚ) + 1 / 2 ≤ number) := by
  have low := Nat.floor_le positive
  have high := Nat.lt_floor_add_one number
  generalize ⌊number⌋₊ = whole at *
  rcases lt_trichotomy number (whole + 1 / 2) with below | half | above
  · exact .inl ⟨⟨by linarith, by linarith, fun _ => ⟨by linarith, by linarith⟩⟩, low⟩
  · rcases Nat.mod_two_eq_zero_or_one whole with even | odd
    · exact .inl ⟨⟨by linarith, by linarith, fun odd => by omega⟩, low⟩
    · refine .inr ⟨⟨?_, ?_, fun next => by omega⟩, half.ge⟩ <;> push_cast <;> linarith
  · refine .inr ⟨⟨?_, ?_, fun _ => ⟨?_, ?_⟩⟩, above.le⟩ <;> push_cast <;> linarith

/-- Every number that is not too small for a mantissa with all of its bits rounds to one of the
format. -/
theorem exists_rounds {number : ℚ}
    (large : (2 : ℚ) ^ (spec.mantissaBitsWithoutImplicit + spec.minExponent) ≤ number) :
    ∃ mantissa exponent, Canonical spec mantissa exponent ∧ Rounds spec number mantissa exponent ∧
      2 ^ spec.mantissaBitsWithoutImplicit ≤ mantissa := by
  have positive : (0 : ℚ) < number := lt_of_lt_of_le (by positivity) large
  obtain ⟨total, floor, ceiling⟩ := exists_mem_Ico_zpow positive one_lt_two
  obtain ⟨exponent, rfl⟩ : ∃ exponent : ℤ, spec.mantissaBitsWithoutImplicit + exponent = total :=
    ⟨total - spec.mantissaBitsWithoutImplicit, by omega⟩
  have least : spec.minExponent ≤ exponent := by
    have powers := (zpow_lt_zpow_iff_right₀ one_lt_two).1 (large.trans_lt ceiling)
    omega
  have unit : (0 : ℚ) < 2 ^ exponent := by positivity
  have widths : 2 ^ spec.mantissaBits = 2 * 2 ^ spec.mantissaBitsWithoutImplicit := by
    rw [Format.mantissaBits, Nat.pow_add, Nat.pow_one]
  have some := Nat.two_pow_pos spec.mantissaBitsWithoutImplicit
  have low : (2 : ℚ) ^ spec.mantissaBitsWithoutImplicit ≤ number / 2 ^ exponent := by
    rwa [le_div_iff₀ unit, ← two_zpow_add]
  have high : number / 2 ^ exponent < 2 * 2 ^ spec.mantissaBitsWithoutImplicit := by
    rw [div_lt_iff₀ unit, mul_assoc, ← two_zpow_add]
    rwa [zpow_add_one₀ two_ne_zero, mul_comm] at ceiling
  have full : 2 ^ spec.mantissaBitsWithoutImplicit ≤ ⌊number / 2 ^ exponent⌋₊ :=
    Nat.le_floor (by exact_mod_cast low)
  have below : ⌊number / 2 ^ exponent⌋₊ < 2 * 2 ^ spec.mantissaBitsWithoutImplicit := by
    rw [Nat.floor_lt (by positivity)]
    exact_mod_cast high
  have nonnegative : 0 ≤ number / 2 ^ exponent := by positivity
  rcases exists_near nonnegative with ⟨near, above⟩ | ⟨near, above⟩
  · exact ⟨_, exponent, ⟨by omega, by omega, least, .inl full⟩,
      .of_div near fun _ _ => by linarith, full⟩
  · by_cases long : ⌊number / 2 ^ exponent⌋₊ + 1 = 2 ^ spec.mantissaBits
    · -- the mantissa becomes one bit too long, and its last bit is zero
      have halved : number / 2 ^ (exponent + 1) = number / 2 ^ exponent / 2 := by
        rw [zpow_add_one₀ two_ne_zero, div_div]
      have size : (⌊number / 2 ^ exponent⌋₊ : ℚ) + 1 = 2 * 2 ^ spec.mantissaBitsWithoutImplicit := by
        exact_mod_cast long.trans widths
      have quarter : (2 : ℚ) ^ spec.mantissaBitsWithoutImplicit - 1 / 4 ≤
          number / 2 ^ (exponent + 1) := by
        rw [halved]
        linarith
      have even : 2 ^ spec.mantissaBitsWithoutImplicit % 2 = 0 :=
        Nat.mod_eq_zero_of_dvd (dvd_pow_self 2 spec.hm.ne')
      refine ⟨2 ^ spec.mantissaBitsWithoutImplicit, exponent + 1,
        ⟨some, by omega, by omega, .inl le_rfl⟩, .of_div ⟨?_, ?_, fun odd => ?_⟩ fun _ _ => ?_, le_rfl⟩
      · push_cast
        linarith
      · push_cast
        rw [halved]
        linarith
      · omega
      · push_cast
        exact quarter
    · exact ⟨_, exponent, ⟨by omega, by omega, least, .inl (by omega)⟩,
        .of_div near fun first _ => by omega, by omega⟩

/-- Parts of a number of the format are at their target exponent. -/
theorem Canonical.targetExponent_eq {mantissa : Nat} {exponent : ℤ}
    (canonical : Canonical spec mantissa exponent) :
    spec.targetExponent (totalExponent mantissa exponent) = exponent := by
  obtain ⟨positive, below, least, full⟩ := canonical
  have most := (Nat.log2_lt positive.ne').2 below
  have bits : spec.mantissaBits = 1 + spec.mantissaBitsWithoutImplicit := rfl
  rw [Format.targetExponent, totalExponent]
  rcases full with large | smallest
  · have some := (Nat.le_log2 positive.ne').2 large
    omega
  · omega

theorem mantissa_ofMantissaAndAccuracy (mantissa : Nat) (accuracy : Accuracy) :
    (ExtendedMantissa.ofMantissaAndAccuracy mantissa accuracy).mantissa = mantissa := by
  rcases accuracy with _ | _ | _ | _ <;> rfl

section Arithmetic

variable {mantissa : Nat} {exponent : ℤ} {number : ℚ} {given : Nat} {start : ℤ} {accuracy : Accuracy}

/-- The exponent that rounding starts from, also where nothing of the mantissa is left. -/
theorem targetExponent_of_tells (canonical : Canonical spec mantissa exponent)
    (rounds : Rounds spec number mantissa exponent)
    (tells : Tells (.ofMantissaAndAccuracy given accuracy) (number / 2 ^ start))
    (le : start ≤ spec.targetExponent (totalExponent given start)) :
    spec.targetExponent (totalExponent given start) = exponent ∨
      mantissa = 2 ^ spec.mantissaBitsWithoutImplicit ∧ spec.minExponent < exponent ∧
        spec.targetExponent (totalExponent given start) = exponent - 1 ∧
        number < mantissa * 2 ^ exponent := by
  have within := tells.within
  rw [mantissa_ofMantissaAndAccuracy] at within
  by_cases nothing : given = 0
  · left
    have positive := spec.hm
    have bits : (spec.mantissaBits : ℤ) = 1 + spec.mantissaBitsWithoutImplicit := by
      rw [Format.mantissaBits]
      push_cast
      rfl
    have total : totalExponent given start = start + 1 := by
      rw [nothing, totalExponent, Nat.log2_zero]
      push_cast
      ring
    rw [total, Format.targetExponent] at le ⊢
    rcases canonical.full with large | smallest
    · exfalso
      have unit : (0 : ℚ) < 2 ^ start := by positivity
      have below : number < 2 ^ start := by
        have inside := (div_lt_iff₀ unit).1 within.2
        rwa [nothing, Nat.cast_zero, zero_add, one_mul] at inside
      have least := canonical.least
      have step : (2 : ℚ) ^ start ≤ 2 ^ exponent :=
        zpow_le_zpow_right₀ one_le_two (by omega)
      have two : (2 : ℚ) ^ 1 ≤ 2 ^ spec.mantissaBitsWithoutImplicit :=
        pow_le_pow_right₀ one_le_two positive
      have size : (2 : ℚ) ^ spec.mantissaBitsWithoutImplicit ≤ mantissa := by exact_mod_cast large
      have lower := rounds.lower
      have one : 1 * (2 : ℚ) ^ exponent ≤ ((mantissa : ℚ) - 1 / 2) * 2 ^ exponent :=
        mul_le_mul_of_nonneg_right (by linarith) (by positivity)
      linarith
    · omega
  · exact rounds.target canonical (totalExponent_le nothing within.1) (lt_totalExponent within.2)

/-- Rounding brings a mantissa to its target exponent, rounds it, and does the same once more in case
that the mantissa has become too long. -/
theorem roundWithAccuracy_of {target : ℤ} {whole : Nat} {final : ExtendedMantissa}
    (same : spec.targetExponent (totalExponent given start) = target) (le : start ≤ target)
    (rounded : (ExtendedMantissa.ofMantissaAndAccuracy given accuracy >>>
      (target - start).toNat).roundedMantissa = whole)
    (again : shiftToTargetExponent spec whole target .exact = (final, exponent))
    (ends : final.mantissa = mantissa) (positive : 0 < mantissa) (sign : Sign) :
    roundWithAccuracy spec sign given start accuracy = .finite sign mantissa exponent positive := by
  subst ends
  rw [roundWithAccuracy]
  simp only [shiftToTargetExponent_eq same le, rounded, again, dif_neg positive.ne']

/-- Whatever rounds to a number of the format is rounded to it by arithmetic. -/
theorem roundWithAccuracy_eq (canonical : Canonical spec mantissa exponent)
    (rounds : Rounds spec number mantissa exponent)
    (tells : Tells (.ofMantissaAndAccuracy given accuracy) (number / 2 ^ start))
    (le : start ≤ spec.targetExponent (totalExponent given start)) (sign : Sign) :
    roundWithAccuracy spec sign given start accuracy =
      .finite sign mantissa exponent canonical.positive := by
  rcases targetExponent_of_tells canonical rounds tells le with
    same | ⟨first, above, same, below⟩
  · rw [same] at le
    have rounded := (tells.shiftTo le).roundedMantissa_eq rounds.near
    have again := shiftToTargetExponent_eq canonical.targetExponent_eq le_rfl .exact
    rw [sub_self] at again
    exact roundWithAccuracy_of same le rounded again rfl canonical.positive sign
  · -- the number is rounded up to a power of two that is one bit too long
    rw [same] at le
    have unit : (0 : ℚ) < 2 ^ exponent := by positivity
    have size : (mantissa : ℚ) = 2 ^ spec.mantissaBitsWithoutImplicit := by exact_mod_cast first
    have doubled : number / 2 ^ (exponent - 1) = 2 * (number / 2 ^ exponent) := by
      rw [zpow_sub_one₀ two_ne_zero]
      field_simp
    have near : Near (2 ^ (spec.mantissaBitsWithoutImplicit + 1)) (number / 2 ^ (exponent - 1)) := by
      have lower := (le_div_iff₀ unit).2 (rounds.narrow first above)
      have upper := (div_lt_iff₀ unit).2 below
      rw [doubled]
      refine ⟨?_, ?_, fun odd => ?_⟩
      · push_cast
        rw [pow_succ]
        linarith
      · push_cast
        rw [pow_succ]
        linarith
      · rw [Nat.pow_succ, Nat.mul_mod_left] at odd
        cases odd
    have rounded := (tells.shiftTo le).roundedMantissa_eq near
    have next : spec.targetExponent (totalExponent (2 ^ (spec.mantissaBitsWithoutImplicit + 1))
        (exponent - 1)) = exponent := by
      rw [Format.targetExponent, totalExponent, Nat.log2_two_pow, Format.mantissaBits]
      push_cast
      omega
    have again := shiftToTargetExponent_eq next (by omega) .exact
    have one : (exponent - (exponent - 1)).toNat = 1 := by omega
    rw [one] at again
    refine roundWithAccuracy_of same le rounded again ?_ canonical.positive sign
    change 2 ^ (spec.mantissaBitsWithoutImplicit + 1) / 2 = mantissa
    rw [first, Nat.pow_succ, Nat.mul_div_cancel _ two_pos]

end Arithmetic

end LightingDesk.Floats
