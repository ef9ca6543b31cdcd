import LightingDesk.Proofs.Decimal.Layout
import LightingDesk.Proofs.Float.Rounding

/-!
The shortest decimal of a binary number rounds to it, and is found within the tries that are made.
-/

namespace LightingDesk.Decimal.Binary

open Float.Model (Format)
open Floats (Canonical Rounds zpow_mul_pow)

/-- Whether a point of the grid of multiples of `10 ^ power` rounds to the number. -/
def isInside (number : Binary) (power : ℤ) (point : Nat) : Bool :=
  let numerator := 2 ^ (number.exponent - 2).toNat * 10 ^ (-power).toNat
  let unit := 2 ^ (2 - number.exponent).toNat * 10 ^ power.toNat
  let low := (4 * number.significand - if number.narrowBelow then 1 else 2) * numerator
  let high := (4 * number.significand + 2) * numerator
  if number.significand % 2 = 0 then low ≤ point * unit && point * unit ≤ high
  else low < point * unit && point * unit < high

/-- The first point of the grid above the number. -/
def pointAbove (number : Binary) (power : ℤ) : Nat :=
  4 * number.significand * (2 ^ (number.exponent - 2).toNat * 10 ^ (-power).toNat) /
    (2 ^ (2 - number.exponent).toNat * 10 ^ power.toNat) + 1

variable {number : Binary} {tie : Tie} {power : ℤ}

theorem isInside_of_gridPoint? {point : Nat} (found : number.gridPoint? tie power = some point) :
    number.isInside power point = true := by
  unfold gridPoint? at found
  unfold isInside
  simp only [Nat.pow_eq] at found
  grind

theorem isSome_gridPoint? (above : number.isInside power (number.pointAbove power) = true) :
    (number.gridPoint? tie power).isSome = true := by
  unfold gridPoint?
  unfold isInside pointAbove at above
  simp only [Nat.pow_eq]
  grind

theorem isSome_gridPoint?_below (some : number.pointAbove power - 1 ≠ 0)
    (below : number.isInside power (number.pointAbove power - 1) = true) :
    (number.gridPoint? tie power).isSome = true := by
  unfold gridPoint?
  unfold isInside pointAbove at below
  unfold pointAbove at some
  rw [Nat.add_sub_cancel] at below some
  simp only [Nat.pow_eq]
  grind

/-- The points on both sides of the number are as near as any other on their side. -/
theorem isSome_gridPoint?_of_isInside {point : Nat} (positive : 0 < point)
    (inside : number.isInside power point = true) :
    (number.gridPoint? tie power).isSome = true := by
  have scaled : 0 < 2 ^ (number.exponent - 2).toNat * 10 ^ (-power).toNat :=
    Nat.mul_pos (Nat.two_pow_pos _) (Nat.pow_pos (by decide))
  have least : (4 * number.significand - if number.narrowBelow then 1 else 2) ≤
      4 * number.significand := Nat.sub_le _ _
  have split := Nat.div_add_mod' (4 * number.significand *
    (2 ^ (number.exponent - 2).toNat * 10 ^ (-power).toNat))
      (2 ^ (2 - number.exponent).toNat * 10 ^ power.toNat)
  have rest := Nat.mod_lt (4 * number.significand *
    (2 ^ (number.exponent - 2).toNat * 10 ^ (-power).toNat))
      (Nat.mul_pos (Nat.two_pow_pos (2 - number.exponent).toNat)
        (Nat.pow_pos (by decide : 0 < 10) : 0 < 10 ^ power.toNat))
  have low := Nat.mul_le_mul_right (2 ^ (number.exponent - 2).toNat * 10 ^ (-power).toNat) least
  rcases Nat.lt_or_ge point (number.pointAbove power) with below | above
  · refine isSome_gridPoint?_below (by omega) ?_
    unfold isInside at inside ⊢
    unfold pointAbove at below ⊢
    rw [Nat.add_sub_cancel]
    have order := Nat.mul_le_mul_right (2 ^ (2 - number.exponent).toNat * 10 ^ power.toNat)
      (Nat.le_of_lt_succ below)
    grind
  · refine isSome_gridPoint? ?_
    unfold isInside at inside ⊢
    unfold pointAbove at above ⊢
    have order := Nat.mul_le_mul_right (2 ^ (2 - number.exponent).toNat * 10 ^ power.toNat) above
    grind

/-! ### Points as numbers -/

/-- A number that rounds to the binary number, which is nearer to its lower neighbour where that is
half as far away. -/
def Covers (number : Binary) (value : ℚ) : Prop :=
  let quarter : ℚ := 2 ^ (number.exponent - 2)
  let low := (4 * number.significand - if number.narrowBelow then 1 else 2) * quarter
  let high := (4 * number.significand + 2) * quarter
  if number.significand % 2 = 0 then low ≤ value ∧ value ≤ high else low < value ∧ value < high

/-- The common denominator that quarters and points are compared with. -/
theorem exists_scale (exponent power : ℤ) : ∃ scale : ℚ, 0 < scale ∧
    (∀ quarters : Nat, ((quarters * (2 ^ exponent.toNat * 10 ^ (-power).toNat) : Nat) : ℚ) * scale =
      quarters * 2 ^ exponent) ∧
    ∀ point : Nat, ((point * (2 ^ (-exponent).toNat * 10 ^ power.toNat) : Nat) : ℚ) * scale =
      point * 10 ^ power := by
  have two := zpow_mul_pow (two_ne_zero : (2 : ℚ) ≠ 0) exponent
  have ten := zpow_mul_pow (by norm_num : (10 : ℚ) ≠ 0) power
  refine ⟨(2 ^ (-exponent).toNat * 10 ^ (-power).toNat)⁻¹, by positivity, fun quarters => ?_,
    fun point => ?_⟩
  · rw [mul_inv_eq_iff_eq_mul₀ (by positivity)]
    push_cast
    rw [← two]
    ring
  · rw [mul_inv_eq_iff_eq_mul₀ (by positivity)]
    push_cast
    rw [← ten]
    ring

theorem isInside_iff (positive : 0 < number.significand) {point : Nat} :
    number.isInside power point = true ↔ number.Covers (point * 10 ^ power) := by
  obtain ⟨scale, some, quarters, points⟩ := exists_scale (number.exponent - 2) power
  have turned : -(number.exponent - 2) = 2 - number.exponent := by omega
  rw [turned] at points
  have low : ((4 * number.significand - if number.narrowBelow then 1 else 2 : Nat) : ℚ) =
      4 * number.significand - if number.narrowBelow then 1 else 2 := by
    rw [Nat.cast_sub (by split <;> omega)]
    push_cast
    rfl
  have least (gap : Nat) : gap * (2 ^ (number.exponent - 2).toNat * 10 ^ (-power).toNat) ≤
      point * (2 ^ (2 - number.exponent).toNat * 10 ^ power.toNat) ↔
        (gap : ℚ) * 2 ^ (number.exponent - 2) ≤ point * 10 ^ power := by
    rw [← quarters, ← points, mul_le_mul_iff_left₀ some, Nat.cast_le]
  have most (gap : Nat) : point * (2 ^ (2 - number.exponent).toNat * 10 ^ power.toNat) ≤
      gap * (2 ^ (number.exponent - 2).toNat * 10 ^ (-power).toNat) ↔
        (point * 10 ^ power : ℚ) ≤ gap * 2 ^ (number.exponent - 2) := by
    rw [← quarters, ← points, mul_le_mul_iff_left₀ some, Nat.cast_le]
  have high : ((4 * number.significand + 2 : Nat) : ℚ) = 4 * number.significand + 2 := by
    push_cast
    rfl
  unfold isInside Covers
  dsimp only
  split
  · rw [Bool.and_eq_true, decide_eq_true_eq, decide_eq_true_eq, least, most, low, high]
  · rw [Bool.and_eq_true, decide_eq_true_eq, decide_eq_true_eq, ← not_le, ← not_le, least, most, low,
      high, not_le, not_le]

/-- Numbers between the two ends, and strictly between them if the significand is odd. -/
theorem Covers.within {value : ℚ} (covers : number.Covers value) :
    ((4 * number.significand - if number.narrowBelow then 1 else 2) * 2 ^ (number.exponent - 2) ≤
        value ∧ value ≤ (4 * number.significand + 2) * 2 ^ (number.exponent - 2)) ∧
      (number.significand % 2 = 1 →
        (4 * number.significand - if number.narrowBelow then 1 else 2) *
          2 ^ (number.exponent - 2) < value ∧
            value < (4 * number.significand + 2) * 2 ^ (number.exponent - 2)) := by
  unfold Covers at covers
  dsimp only at covers
  by_cases even : number.significand % 2 = 0
  · rw [if_pos even] at covers
    exact ⟨covers, fun odd => by omega⟩
  · rw [if_neg even] at covers
    exact ⟨⟨covers.1.le, covers.2.le⟩, fun _ => covers⟩

/-- A number that covers a number of a format is rounded to it. -/
theorem Covers.rounds {spec : Format} {value : ℚ} (covers : number.Covers value)
    (narrow : number.narrowBelow = decide (number.significand =
      2 ^ spec.mantissaBitsWithoutImplicit ∧ spec.minExponent < number.exponent)) :
    Rounds spec value number.significand number.exponent := by
  obtain ⟨⟨low, high⟩, strict⟩ := covers.within
  have unit : (0 : ℚ) < 2 ^ number.exponent := by positivity
  rw [Floats.two_zpow_sub_two] at low high strict
  have gap : (if number.narrowBelow then 1 else 2 : ℚ) ≤ 2 := by split <;> norm_num
  have least : ((number.significand : ℚ) - 1 / 2) * 2 ^ number.exponent ≤
      (4 * number.significand - if number.narrowBelow then 1 else 2) *
        (2 ^ number.exponent / 4) := by
    nlinarith
  constructor
  case lower => exact least.trans low
  case upper => linarith
  case narrow =>
    intro first above
    rw [narrow, decide_eq_true ⟨first, above⟩, if_pos rfl] at low
    linarith
  case strict =>
    intro odd
    exact ⟨least.trans_lt (strict odd).1, by linarith [(strict odd).2]⟩

/-- A number that is rounded to a number of a format is covered by it. -/
theorem Covers.of_rounds {spec : Format} {value : ℚ}
    (rounds : Rounds spec value number.significand number.exponent)
    (narrow : number.narrowBelow = decide (number.significand =
      2 ^ spec.mantissaBitsWithoutImplicit ∧ spec.minExponent < number.exponent)) :
    number.Covers value := by
  have unit : (0 : ℚ) < 2 ^ number.exponent := by positivity
  have upper := rounds.upper
  have lower := rounds.lower
  unfold Covers
  dsimp only
  rw [Floats.two_zpow_sub_two]
  by_cases first : number.significand = 2 ^ spec.mantissaBitsWithoutImplicit ∧
      spec.minExponent < number.exponent
  · have even : number.significand % 2 = 0 := by
      rw [first.1]
      exact Nat.mod_eq_zero_of_dvd (dvd_pow_self 2 spec.hm.ne')
    have near := rounds.narrow first.1 first.2
    rw [if_pos even, narrow, decide_eq_true first, if_pos rfl]
    constructor <;> linarith
  · rw [narrow, decide_eq_false first, if_neg Bool.false_ne_true]
    split
    · constructor <;> linarith
    next odd =>
      obtain ⟨above, below⟩ := rounds.strict (Nat.mod_two_ne_zero.1 odd)
      constructor <;> linarith

/-! ### The search -/

theorem pointAbove_bounds (number : Binary) (power : ℤ) :
    (4 * number.significand * 2 ^ (number.exponent - 2) : ℚ) <
        number.pointAbove power * 10 ^ power ∧
      (number.pointAbove power * 10 ^ power : ℚ) ≤
        4 * number.significand * 2 ^ (number.exponent - 2) + 10 ^ power := by
  obtain ⟨scale, some, quarters, points⟩ := exists_scale (number.exponent - 2) power
  have turned : -(number.exponent - 2) = 2 - number.exponent := by omega
  rw [turned] at points
  have value := quarters (4 * number.significand)
  have point := points (number.pointAbove power)
  have one := points 1
  rw [pointAbove] at point ⊢
  generalize 4 * number.significand * (2 ^ (number.exponent - 2).toNat * 10 ^ (-power).toNat) =
    size at *
  generalize shape : 2 ^ (2 - number.exponent).toNat * 10 ^ power.toNat = unit at *
  have positive : 0 < unit := shape ▸ Nat.mul_pos (Nat.two_pow_pos _) (Nat.pow_pos (by decide))
  push_cast at value one
  rw [one_mul, one_mul] at one
  have parts := Nat.div_add_mod' size unit
  have rest := Nat.mod_lt size positive
  rw [← value, ← point, ← one, ← add_mul, Nat.add_mul, Nat.one_mul]
  constructor
  · refine mul_lt_mul_of_pos_right ?_ some
    exact_mod_cast (by omega : size < size / unit * unit + unit)
  · refine mul_le_mul_of_nonneg_right ?_ some.le
    exact_mod_cast (by omega : size / unit * unit + unit ≤ size + unit)

/-- The grid is so fine that the point just above the number rounds to it. -/
theorem isSome_gridPoint?_of_fine (tie : Tie) (positive : 0 < number.significand)
    (fine : (10 : ℚ) ^ power ≤ 2 ^ (number.exponent - 2)) :
    (number.gridPoint? tie power).isSome = true := by
  refine isSome_gridPoint? ((isInside_iff positive).2 ?_)
  have unit : (0 : ℚ) < 2 ^ (number.exponent - 2) := by positivity
  obtain ⟨above, below⟩ := number.pointAbove_bounds power
  have some : (1 : ℚ) ≤ if number.narrowBelow then 1 else 2 := by split <;> norm_num
  unfold Covers
  dsimp only
  split
  · constructor <;> nlinarith
  · constructor <;> nlinarith

/-- What is found is a point of the coarsest grid that has one, as long as the tries last. -/
theorem exists_search (tries : Nat) (power fine : ℤ) (le : fine ≤ power)
    (reached : power < fine + tries) (some : (number.gridPoint? tie fine).isSome = true) :
    ∃ found point, number.gridPoint? tie found = Option.some point ∧
      number.search tie tries power = ⟨point, found⟩ ∧
      ∀ other ≤ power, (number.gridPoint? tie other).isSome = true → other ≤ found := by
  induction tries generalizing power with
  | zero => omega
  | succ tries ih =>
    rw [search]
    cases here : number.gridPoint? tie power with
    | some point => exact ⟨power, point, here, rfl, fun other le _ => le⟩
    | none =>
      have next {other : ℤ} (le : other ≤ power)
          (some : (number.gridPoint? tie other).isSome = true) : other ≤ power - 1 := by
        have different : other ≠ power := by
          rintro rfl
          rw [here] at some
          cases some
        omega
      obtain ⟨found, point, isPoint, same, coarsest⟩ :=
        ih (power - 1) (next le some) (by push_cast at reached; omega)
      exact ⟨found, point, isPoint, same, fun other le some => coarsest other (next le some) some⟩

/-- Numbers of the size of those in single and double precision. -/
structure InReach (number : Binary) : Prop where
  positive : 0 < number.significand
  short : number.significand.log2 < 64
  least : -1200 ≤ number.exponent
  most : number.exponent ≤ 1000

/-- Powers of ten and of two are compared by a fraction that is near to the logarithm. -/
theorem mul_le_of_ten_zpow_le {exponent : ℤ} (le : (10 : ℚ) ^ power ≤ 2 ^ exponent) {tens twos : Nat}
    (near : ((2 ^ twos : Nat) : ℚ) ^ exponent ≤ ((10 ^ tens : Nat) : ℚ) ^ exponent) :
    power * twos ≤ tens * exponent := by
  refine (zpow_le_zpow_iff_right₀ (by norm_num : (1 : ℚ) < 10)).1 ?_
  calc (10 : ℚ) ^ (power * twos)
      = (10 ^ power) ^ twos := by rw [zpow_mul, zpow_natCast]
    _ ≤ (2 ^ exponent) ^ twos := pow_le_pow_left₀ (by positivity) le twos
    _ = ((2 ^ twos : Nat) : ℚ) ^ exponent := by
        push_cast
        rw [← zpow_natCast, ← zpow_natCast, ← zpow_mul, ← zpow_mul, mul_comm]
    _ ≤ ((10 ^ tens : Nat) : ℚ) ^ exponent := near
    _ = 10 ^ (tens * exponent) := by
        push_cast
        rw [← zpow_natCast, ← zpow_mul]

/-- The search starts above all numbers that round to the number. -/
theorem InReach.le_powerAbove (reach : number.InReach)
    (le : (10 : ℚ) ^ power ≤ 2 ^ (number.significand.log2 + 1 + number.exponent)) :
    power ≤ number.powerAbove := by
  obtain ⟨-, short, least, most⟩ := reach
  unfold powerAbove
  generalize shape : number.significand.log2 + 1 + number.exponent = exponent at le
  rcases le_total 0 exponent with positive | negative
  · have near : ((2 ^ 93 : Nat) : ℚ) ^ exponent ≤ ((10 ^ 28 : Nat) : ℚ) ^ exponent :=
      zpow_le_zpow_left₀ positive (by positivity) (by norm_num)
    have bound := mul_le_of_ten_zpow_le le near
    omega
  · have near : ((2 ^ 196 : Nat) : ℚ) ^ exponent ≤ ((10 ^ 59 : Nat) : ℚ) ^ exponent := by
      obtain ⟨count, rfl⟩ := Int.exists_eq_neg_ofNat negative
      rw [zpow_neg, zpow_neg, zpow_natCast, zpow_natCast]
      exact inv_anti₀ (by positivity) (pow_le_pow_left₀ (by positivity) (by norm_num) count)
    have bound := mul_le_of_ten_zpow_le le near
    omega

/-- A power of ten whose grid is fine enough for every number of an exponent. -/
def finePower (exponent : ℤ) : ℤ := min 0 ((exponent - 2) / 3)

theorem ten_zpow_finePower (exponent : ℤ) : (10 : ℚ) ^ finePower exponent ≤ 2 ^ (exponent - 2) := by
  obtain ⟨count, same⟩ : ∃ count : Nat, finePower exponent = -count :=
    ⟨(-finePower exponent).toNat, by unfold finePower; omega⟩
  have bound : -(3 * count : ℤ) ≤ exponent - 2 := by
    unfold finePower at same
    omega
  calc (10 : ℚ) ^ finePower exponent
      = (10 ^ count)⁻¹ := by rw [same, zpow_neg, zpow_natCast]
    _ ≤ (8 ^ count)⁻¹ :=
        inv_anti₀ (by positivity) (pow_le_pow_left₀ (by norm_num) (by norm_num) count)
    _ = 2 ^ (-(3 * count : ℤ)) := by
        rw [zpow_neg, zpow_mul, zpow_natCast]
        norm_num
    _ ≤ 2 ^ (exponent - 2) := zpow_le_zpow_right₀ one_le_two bound

/-- The shortest decimal rounds to the number, and no decimal with a larger power of ten does. -/
theorem InReach.exists_shortest (reach : number.InReach) (tie : Tie) :
    ∃ point power, number.shortest tie = ⟨point, power⟩ ∧ 0 < point ∧
      number.Covers (point * 10 ^ power) ∧
      ∀ (other : Nat) (place : ℤ), 0 < other → number.Covers (other * 10 ^ place) →
        place ≤ power := by
  have near : finePower number.exponent ≤ number.powerAbove ∧
      number.powerAbove < finePower number.exponent + (400 : Nat) := by
    have short := reach.short
    have least := reach.least
    have most := reach.most
    unfold finePower powerAbove
    omega
  obtain ⟨power, point, found, same, coarsest⟩ := exists_search 400 _ _ near.1 near.2
    (isSome_gridPoint?_of_fine tie reach.positive (ten_zpow_finePower number.exponent))
  refine ⟨point, power, same, Nat.pos_of_ne_zero (gridPoint?_ne_zero found),
    (isInside_iff reach.positive).1 (isInside_of_gridPoint? found), fun other place some covers => ?_⟩
  refine coarsest place (reach.le_powerAbove ?_)
    (isSome_gridPoint?_of_isInside some ((isInside_iff reach.positive).2 covers))
  have one : (1 : ℚ) ≤ other := by exact_mod_cast some
  have below : (number.significand : ℚ) + 1 ≤ (2 ^ (number.significand.log2 + 1) : Nat) := by
    exact_mod_cast Nat.lt_log2_self
  push_cast at below
  have unit : (0 : ℚ) < 2 ^ (number.exponent - 2) := by positivity
  have split : (2 : ℚ) ^ (number.significand.log2 + 1 + number.exponent) =
      4 * 2 ^ (number.significand.log2 + 1) * 2 ^ (number.exponent - 2) := by
    have total := Floats.two_zpow_add (number.significand.log2 + 1) number.exponent
    push_cast at total
    rw [total, zpow_sub₀ two_ne_zero]
    ring
  calc (10 : ℚ) ^ place
      ≤ other * 10 ^ place := le_mul_of_one_le_left (by positivity) one
    _ ≤ (4 * number.significand + 2) * 2 ^ (number.exponent - 2) := covers.within.1.2
    _ ≤ 4 * 2 ^ (number.significand.log2 + 1) * 2 ^ (number.exponent - 2) :=
        mul_le_mul_of_nonneg_right (by linarith) unit.le
    _ = 2 ^ (number.significand.log2 + 1 + number.exponent) := split.symm

end LightingDesk.Decimal.Binary
