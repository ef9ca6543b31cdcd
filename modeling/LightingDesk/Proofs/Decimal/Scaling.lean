import LightingDesk.Proofs.Decimal.Nearest

/-!
Numbers that are read by way of a 64-bit significand. Their digits are rounded to a double first, the
power of ten is rounded as well, and so is the product or the quotient of the two.
-/

namespace LightingDesk

open Float.Model (Format)
open Float.Model.UnpackedFloat
open Floats

namespace Floats

variable {spec : Format} {number : ℚ} {mantissa : Nat} {exponent top : ℤ}

/-- What lies below the last number of an exponent, or not halfway to the next, has no larger one. -/
theorem Rounds.exponent_le (rounds : Rounds spec number mantissa exponent)
    (full : 2 ^ spec.mantissaBitsWithoutImplicit ≤ mantissa) (least : spec.minExponent ≤ top)
    (below : number < (2 ^ spec.mantissaBits - 1 / 2) * 2 ^ top) : exponent ≤ top := by
  by_contra above
  have unit : (0 : ℚ) < 2 ^ top := by positivity
  have double : 2 * (2 : ℚ) ^ top ≤ 2 ^ exponent := by
    rw [← zpow_one_add₀ two_ne_zero]
    exact zpow_le_zpow_right₀ one_le_two (by omega)
  have widths : (2 : ℚ) ^ spec.mantissaBits = 2 * 2 ^ spec.mantissaBitsWithoutImplicit := by
    rw [Format.mantissaBits, pow_add, pow_one]
  have some : (1 : ℚ) ≤ 2 ^ spec.mantissaBitsWithoutImplicit := one_le_pow₀ one_le_two
  have lower : ((2 : ℚ) ^ spec.mantissaBitsWithoutImplicit - 1 / 4) * 2 ^ exponent ≤ number := by
    rcases full.eq_or_lt with first | more
    · have narrow := rounds.narrow first.symm (by omega)
      rw [← first] at narrow
      exact_mod_cast narrow
    · have more : (2 : ℚ) ^ spec.mantissaBitsWithoutImplicit + 1 ≤ mantissa := by exact_mod_cast more
      refine le_trans ?_ rounds.lower
      exact mul_le_mul_of_nonneg_right (by linarith) (by positivity)
  nlinarith

/-- A number of the format is not much larger than what rounds to it. -/
theorem Rounds.mul_le (rounds : Rounds spec number mantissa exponent)
    (full : 2 ^ spec.mantissaBitsWithoutImplicit ≤ mantissa) :
    mantissa * 2 ^ exponent * (2 ^ spec.mantissaBits - 1 : ℚ) ≤ number * 2 ^ spec.mantissaBits := by
  have widths : (2 : ℚ) ^ spec.mantissaBits = 2 * 2 ^ spec.mantissaBitsWithoutImplicit := by
    rw [Format.mantissaBits, pow_add, pow_one]
  have full : (2 : ℚ) ^ spec.mantissaBitsWithoutImplicit ≤ mantissa := by exact_mod_cast full
  have unit : (0 : ℚ) < 2 ^ exponent := by positivity
  have capacity : (0 : ℚ) < 2 ^ spec.mantissaBits := by positivity
  calc (mantissa * 2 ^ exponent * (2 ^ spec.mantissaBits - 1) : ℚ)
      = mantissa * (2 ^ spec.mantissaBits - 1) * 2 ^ exponent := by ring
    _ ≤ (mantissa - 1 / 2) * 2 ^ spec.mantissaBits * 2 ^ exponent :=
        mul_le_mul_of_nonneg_right (by linarith) unit.le
    _ = (mantissa - 1 / 2) * 2 ^ exponent * 2 ^ spec.mantissaBits := by ring
    _ ≤ number * 2 ^ spec.mantissaBits := mul_le_mul_of_nonneg_right rounds.lower capacity.le

theorem Rounds.le_two_mul (rounds : Rounds spec number mantissa exponent) (positive : 0 < mantissa) :
    number ≤ 2 * (mantissa * 2 ^ exponent) := by
  have some : (1 : ℚ) ≤ mantissa := by exact_mod_cast positive
  have unit : (0 : ℚ) < 2 ^ exponent := by positivity
  have upper := rounds.upper
  nlinarith

end Floats

namespace Decimal.Literal

/-! ### The significand -/

theorem read_on (start digit : Nat) (rest : List Nat) :
    start * 10 ^ (digit :: rest).length + valueOfDigits (digit :: rest) =
      (start * 10 + digit) * 10 ^ rest.length + valueOfDigits rest := by
  rw [valueOfDigits_cons, List.length_cons, Nat.pow_eq]
  ring

theorem le_read_on (start : Nat) (digits : List Nat) :
    start ≤ start * 10 ^ digits.length + valueOfDigits digits :=
  (Nat.le_mul_of_pos_right start (Nat.pow_pos (by decide))).trans (Nat.le_add_right _ _)

theorem takeWhole_eq (digits : List Nat) (start : Nat)
    (few : start * 10 ^ digits.length + valueOfDigits digits < significandLimit) :
    takeWhole start digits = (start * 10 ^ digits.length + valueOfDigits digits, 0) := by
  induction digits generalizing start with
  | nil => simp [takeWhole, valueOfDigits]
  | cons digit rest ih =>
    rw [read_on] at few ⊢
    have first := (le_read_on (start * 10 + digit) rest).trans_lt few
    rw [takeWhole, if_pos first, ih _ few]

theorem takeFraction_eq (digits : List Nat) (start count : Nat)
    (few : start * 10 ^ digits.length + valueOfDigits digits < significandLimit) :
    takeFraction start count digits =
      (start * 10 ^ digits.length + valueOfDigits digits, count + digits.length) := by
  induction digits generalizing start count with
  | nil => simp [takeFraction, valueOfDigits]
  | cons digit rest ih =>
    rw [read_on] at few ⊢
    have first := (le_read_on (start * 10 + digit) rest).trans_lt few
    rw [takeFraction, if_pos first, ih _ _ few, List.length_cons, Nat.add_right_comm, Nat.add_assoc]

/-- Digits in double precision, multiplied with or divided by a power of ten. -/
def scale? (digits : Nat) (power : Int) : Option Float :=
  if power < 0 then some (divide digits.toUInt64.toFloat power.natAbs)
  else if power.toNat ≤ largestPower then
    if (digits.toUInt64.toFloat * powerOfTen power.toNat).isInf then none
    else some (digits.toUInt64.toFloat * powerOfTen power.toNat)
  else if digits.toUInt64.toFloat == 0 then some digits.toUInt64.toFloat
  else none

/-- All digits of a number are taken into the significand if there are few of them. -/
theorem scaled?_eq {literal : Literal} (few : literal.digits < significandLimit) :
    literal.scaled? = (scale? literal.digits literal.lastPower).map fun size =>
      if literal.negative then -size else size := by
  have split : literal.digits = valueOfDigits literal.whole * 10 ^ literal.fraction.length +
      valueOfDigits literal.fraction := valueOfDigits_append ..
  rw [split] at few
  have inside := (le_read_on (valueOfDigits literal.whole) literal.fraction).trans_lt few
  have whole := takeWhole_eq literal.whole 0 (by omega)
  have fraction := takeFraction_eq literal.fraction (valueOfDigits literal.whole) 0 few
  rw [Nat.zero_mul, Nat.zero_add] at whole
  rw [Nat.zero_add, ← split] at fraction
  rw [scaled?]
  simp only [whole, fraction]
  rw [Nat.cast_zero, Int.add_zero, scale?]
  rfl

/-! ### Rounding on the way -/

/-- The number of double precision that a value rounds to. -/
def IsRounded (number : Float) (value : ℚ) : Prop :=
  ∃ mantissa exponent, ∃ canonical : Canonical .binary64 mantissa exponent,
    number.toModel.unpack = .finite .positive mantissa exponent canonical.positive ∧
      Rounds .binary64 value mantissa exponent ∧ 2 ^ 52 ≤ mantissa

theorem IsRounded.isInf {number : Float} {value : ℚ} (rounded : IsRounded number value) :
    number.isInf = false := by
  obtain ⟨_, _, _, same, -⟩ := rounded
  rw [Float.isInf, Float.Model.isInf, same]
  rfl

/-- The last number of double precision, and half of the distance to the next one. -/
def ceiling : ℚ := (2 ^ 53 - 1 / 2) * 2 ^ 971

theorem lt_ceiling {number : Nat} (below : 2 * number < (2 ^ 54 - 1) * 2 ^ 971) :
    (number : ℚ) < ceiling := by
  have below : (2 * number : ℚ) < (2 ^ 54 - 1 : Nat) * 2 ^ 971 := by exact_mod_cast below
  rw [ceiling]
  push_cast at below
  generalize (2 : ℚ) ^ 971 = unit at *
  linarith

theorem ceiling_lt : ceiling < 10 ^ (largestPower + 1) := by
  have capacity : (2 ^ 54 - 1) * 2 ^ 971 < 2 * 10 ^ (largestPower + 1) := by decide +kernel
  have most : ((2 ^ 54 - 1 : Nat) * 2 ^ 971 : ℚ) < 2 * 10 ^ (largestPower + 1) := by
    exact_mod_cast capacity
  clear capacity
  rw [ceiling]
  push_cast at most
  generalize (2 : ℚ) ^ 971 = unit at *
  generalize (10 : ℚ) ^ (largestPower + 1) = bound at *
  linarith

/-- A number that is neither too small nor too large for double precision rounds to one. -/
theorem exists_rounds_double {value : ℚ} (large : 2 ^ (-1022 : ℤ) ≤ value) (small : value < ceiling) :
    ∃ mantissa exponent, Canonical .binary64 mantissa exponent ∧ Bounded .binary64 exponent ∧
      Rounds .binary64 value mantissa exponent ∧ 2 ^ 52 ≤ mantissa := by
  have least : (Format.binary64.mantissaBitsWithoutImplicit : ℤ) + Format.binary64.minExponent =
      -1022 := by decide
  obtain ⟨mantissa, exponent, canonical, rounds, full⟩ := exists_rounds (least ▸ large)
  have most : exponent ≤ (971 : Nat) := rounds.exponent_le full (by decide) (by
    rw [zpow_natCast]
    exact small)
  refine ⟨mantissa, exponent, canonical, ?_, rounds, full⟩
  change exponent + 1023 + 52 + 1 < 2 ^ 11
  omega

/-- Nothing from one quarter on is too small. -/
theorem smallest_le {value : ℚ} (large : 1 / 4 ≤ value) : (2 : ℚ) ^ (-1022 : ℤ) ≤ value := by
  calc (2 : ℚ) ^ (-1022 : ℤ)
      ≤ 2 ^ (-2 : ℤ) := zpow_le_zpow_right₀ one_le_two (by decide)
    _ = 1 / 4 := by norm_num
    _ ≤ value := large

theorem isRounded_digits {digits : Nat} (positive : 0 < digits) (few : digits < significandLimit) :
    IsRounded digits.toUInt64.toFloat digits := by
  have same : digits.toUInt64.toNat = digits := by
    rw [UInt64.toNat_ofNat']
    exact Nat.mod_eq_of_lt few
  have large : (1 : ℚ) ≤ digits := by exact_mod_cast positive
  have small : (digits : ℚ) < ceiling :=
    lt_ceiling ((Nat.mul_lt_mul_of_pos_left few two_pos).trans (by decide +kernel))
  obtain ⟨mantissa, exponent, canonical, bounded, rounds, full⟩ :=
    exists_rounds_double (smallest_le (by linarith)) small
  refine ⟨mantissa, exponent, canonical, ?_, rounds, full⟩
  change unpack .binary64 (pack .binary64 (ofNat .binary64 digits.toUInt64.toNat)) = _
  rw [same, ofNat_eq canonical rounds positive, unpack_pack canonical.positive canonical bounded]

theorem isRounded_powerOfTen {power : Nat} (inside : power ≤ largestPower) :
    IsRounded (powerOfTen power) (10 ^ power) := by
  have small : ((10 ^ power : Nat) : ℚ) < ceiling := by
    refine lt_ceiling (lt_of_le_of_lt (b := 2 * 10 ^ largestPower) ?_ (by decide +kernel))
    exact Nat.mul_le_mul_left 2 (Nat.pow_le_pow_right (by decide) inside)
  push_cast at small
  have large : (1 : ℚ) ≤ 10 ^ power := one_le_pow₀ (by norm_num)
  obtain ⟨mantissa, exponent, canonical, bounded, rounds, full⟩ :=
    exists_rounds_double (smallest_le (by linarith)) small
  have capacity : power ≤ 2 ^ Format.binary64.exponentBits := inside.trans (by decide)
  refine ⟨mantissa, exponent, canonical, ?_, rounds, full⟩
  exact unpack_ofScientific_whole one_pos capacity canonical bounded (by simpa using rounds)

/-- A product of rounded numbers, as long as it is not so near to the end of double precision that
rounding might make it too large. -/
theorem IsRounded.mul {first second : Float} {value worth : ℚ} (one : IsRounded first value)
    (other : IsRounded second worth) (large : 1 ≤ value) (more : 1 ≤ worth)
    (small : value * worth ≤ (2 ^ 53 - 7 / 2) * 2 ^ 971) :
    ∃ product, IsRounded (first * second) product := by
  obtain ⟨mantissa, exponent, canonical, shape, rounds, full⟩ := one
  obtain ⟨factor, power, proper, form, near, long⟩ := other
  have above := rounds.mul_le full
  have beyond := near.mul_le long
  have half := rounds.le_two_mul canonical.positive
  have again := near.le_two_mul proper.positive
  change _ * (2 ^ 53 - 1 : ℚ) ≤ _ * 2 ^ 53 at above beyond
  have least : (1 / 4 : ℚ) ≤ (mantissa * 2 ^ exponent) * (factor * 2 ^ power) := by
    generalize (mantissa * 2 ^ exponent : ℚ) = size at *
    generalize (factor * 2 ^ power : ℚ) = scale at *
    nlinarith
  have below : ((mantissa * 2 ^ exponent) * (factor * 2 ^ power) : ℚ) < ceiling := by
    have whole : (0 : ℚ) ≤ mantissa * 2 ^ exponent := by positivity
    have part : (0 : ℚ) ≤ factor * 2 ^ power := by positivity
    have unit : (0 : ℚ) < 2 ^ 971 := pow_pos two_pos _
    have both := mul_le_mul above beyond (mul_nonneg part (by norm_num))
      (mul_nonneg (zero_le_one.trans large) (by norm_num))
    rw [ceiling]
    generalize (2 : ℚ) ^ 971 = unit at *
    generalize (mantissa * 2 ^ exponent : ℚ) = size at *
    generalize (factor * 2 ^ power : ℚ) = scale at *
    nlinarith
  obtain ⟨result, place, fitting, bounded, nearest, wide⟩ := exists_rounds_double (smallest_le least) below
  have length : 2 ^ Format.binary64.mantissaBitsWithoutImplicit ≤ mantissa * factor := by
    nlinarith
  refine ⟨_, result, place, fitting, ?_, nearest, wide⟩
  change unpack .binary64 (pack .binary64 (Float.Model.UnpackedFloat.mul .binary64
    first.toModel.unpack second.toModel.unpack)) = _
  rw [shape, form, mul_eq canonical.positive proper.positive length fitting nearest]
  exact unpack_pack fitting.positive fitting bounded

theorem IsRounded.zero_mul {number : Float} {value : ℚ} (rounded : IsRounded number value) :
    0 * number = 0 := by
  obtain ⟨mantissa, exponent, canonical, same, -⟩ := rounded
  apply eq_of_unpack
  change unpack .binary64 (pack .binary64 (Float.Model.UnpackedFloat.mul .binary64 (.zero .positive)
    number.toModel.unpack)) = .zero .positive
  rw [same]
  change unpack .binary64 (pack .binary64 (.zero (.positive * .positive))) = .zero .positive
  rfl

theorem IsRounded.zero_div {number : Float} {value : ℚ} (rounded : IsRounded number value) :
    0 / number = 0 := by
  obtain ⟨mantissa, exponent, canonical, same, -⟩ := rounded
  apply eq_of_unpack
  change unpack .binary64 (pack .binary64 (Float.Model.UnpackedFloat.div .binary64 (.zero .positive)
    number.toModel.unpack)) = .zero .positive
  rw [same]
  change unpack .binary64 (pack .binary64 (.zero (.positive / .positive))) = .zero .positive
  rfl

/-- Zero is read as zero, whatever its power of ten. -/
theorem scale?_zero (power : ℤ) : scale? 0 power = some 0 := by
  have start : (0 : Nat).toUInt64.toFloat = 0 := rfl
  have notInf : (0 : Float).isInf = false := by decide +kernel
  rw [scale?, start]
  split
  · rw [divide]
    split
    next inside => rw [(isRounded_powerOfTen inside).zero_div]
    next => rfl
  · split
    next inside => rw [(isRounded_powerOfTen inside).zero_mul, notInf, if_neg Bool.false_ne_true]
    next => rfl

/-- Numbers that are not too near to the end of double precision have a reading. -/
theorem isSome_scale? {digits : Nat} {power : ℤ} (few : digits < significandLimit)
    (small : (digits * 10 ^ power : ℚ) ≤ (2 ^ 53 - 7 / 2) * 2 ^ 971) :
    (scale? digits power).isSome = true := by
  rcases Nat.eq_zero_or_pos digits with rfl | positive
  · rw [scale?_zero]
    rfl
  rw [scale?]
  split
  · rfl
  next whole =>
    obtain ⟨count, rfl⟩ := Int.eq_ofNat_of_zero_le (Int.not_lt.1 whole)
    rw [Int.toNat_natCast]
    rw [zpow_natCast] at small
    have first := isRounded_digits positive few
    have one : (1 : ℚ) ≤ digits := by exact_mod_cast positive
    split
    next inside =>
      obtain ⟨product, rounded⟩ := first.mul (isRounded_powerOfTen inside) one
        (one_le_pow₀ (by norm_num)) small
      rw [rounded.isInf]
      rfl
    next outside =>
      have most := ceiling_lt
      have least : (10 : ℚ) ^ (largestPower + 1) ≤ 10 ^ count :=
        pow_le_pow_right₀ (by norm_num) (Nat.lt_of_not_le outside)
      have unit : (0 : ℚ) < 2 ^ 971 := pow_pos two_pos _
      unfold ceiling at most
      generalize (2 : ℚ) ^ 971 = unit at *
      generalize (10 : ℚ) ^ (largestPower + 1) = bound at *
      nlinarith

/-! ### Exact steps -/

theorem isWorth_powerOfTen (power : Fin 23) :
    IsWorth 0 (powerOfTen power).toModel.unpack ((10 ^ power.val : Nat) : ℚ) := by
  have all : ∀ power : Fin 23, (fraction? (powerOfTen power).toModel.unpack).any
      fun fraction => fraction.1 = 10 ^ power.val * fraction.2 := by
    decide +kernel
  obtain ⟨⟨numerator, denominator⟩, found, same⟩ := (Option.any_eq_true _ _).1 (all power)
  exact isWorth_of_fraction? found (of_decide_eq_true same)

/-- A significand and a power of ten that are both kept exactly are rounded only once. -/
theorem scale?_eq {digits : Nat} {power : ℤ} {mantissa : Nat} {exponent : ℤ} (positive : 0 < digits)
    (few : digits < 2 ^ 53) (near : power.natAbs ≤ 22)
    (canonical : Canonical .binary64 mantissa exponent) (bounded : Bounded .binary64 exponent)
    (rounds : Rounds .binary64 (digits * 10 ^ power) mantissa exponent) :
    ∃ number, scale? digits power = some number ∧
      number.toModel.unpack = .finite .positive mantissa exponent canonical.positive := by
  have start := unpack_toFloat positive few
  have scale := isWorth_powerOfTen ⟨power.natAbs, by omega⟩
  have inside : power.natAbs ≤ largestPower := near.trans (by decide)
  have packed : unpack .binary64 (pack .binary64 (.finite .positive mantissa exponent
      canonical.positive)) = .finite .positive mantissa exponent canonical.positive :=
    unpack_pack canonical.positive canonical bounded
  rw [scale?]
  split
  next negative =>
    have turned : (digits * 10 ^ power : ℚ) = digits / (10 ^ power.natAbs : Nat) := by
      have turned : power = -(power.natAbs : ℤ) := by omega
      rw [turned, zpow_neg, zpow_natCast, Int.natAbs_neg, Int.natAbs_natCast]
      push_cast
      rfl
    rw [turned] at rounds
    refine ⟨_, rfl, ?_⟩
    rw [divide, if_pos inside]
    change unpack .binary64 (pack .binary64 (div .binary64 _ _)) = _
    rw [start.div_eq scale canonical rounds]
    exact packed
  next whole =>
    have same : power.toNat = power.natAbs := by omega
    have turned : (digits * 10 ^ power : ℚ) = digits * (10 ^ power.natAbs : Nat) := by
      have turned : power = (power.natAbs : ℤ) := by omega
      rw [turned, zpow_natCast, Int.natAbs_natCast]
      push_cast
      rfl
    rw [turned] at rounds
    have shape : (digits.toUInt64.toFloat * powerOfTen power.natAbs).toModel.unpack =
        .finite .positive mantissa exponent canonical.positive := by
      change unpack .binary64 (pack .binary64 (mul .binary64 _ _)) = _
      rw [start.mul_eq scale (by decide) canonical rounds]
      exact packed
    have finite : (digits.toUInt64.toFloat * powerOfTen power.natAbs).isInf = false := by
      rw [Float.isInf, Float.Model.isInf, shape]
      rfl
    rw [same, if_pos inside, finite, if_neg Bool.false_ne_true]
    exact ⟨_, rfl, shape⟩

/-! ### Numbers that are written out -/

variable {literal : Literal}

theorem isSome_scaled? (few : literal.digits < significandLimit)
    (small : literal.value ≤ (2 ^ 53 - 7 / 2) * 2 ^ 971) : literal.scaled?.isSome = true := by
  rw [scaled?_eq few, Option.isSome_map]
  exact isSome_scale? few small

theorem scaled?_zero (zero : literal.digits = 0) :
    literal.scaled? = some (if literal.negative then -0 else 0) := by
  rw [scaled?_eq (zero ▸ by decide), zero, scale?_zero]
  rfl

/-- A number with so few digits that they and their power of ten are kept exactly is read as the double
that it rounds to. -/
theorem exists_scaled? {mantissa : Nat} {exponent : ℤ} (positive : 0 < literal.digits)
    (few : literal.digits < 2 ^ 53) (near : literal.lastPower.natAbs ≤ 22)
    (canonical : Canonical .binary64 mantissa exponent) (bounded : Bounded .binary64 exponent)
    (rounds : Rounds .binary64 literal.value mantissa exponent) :
    ∃ number, literal.scaled? = some number ∧ number.toModel.unpack =
      .finite (signOf literal.negative) mantissa exponent canonical.positive := by
  obtain ⟨size, scaled, shape⟩ := scale?_eq positive few near canonical bounded rounds
  rw [scaled?_eq (few.trans (by decide)), scaled, Option.map_some]
  refine ⟨_, rfl, ?_⟩
  cases literal.negative with
  | false => exact shape
  | true =>
    rw [if_pos rfl, unpack_neg, shape]
    rfl

end Decimal.Literal

namespace Decimal

variable {spec : Format} {layout : Layout} {literal : Literal} {number : Scaled} {mantissa : Nat}
  {exponent : ℤ}

/-- The digits of a shortest decimal make a significand, with the zeros that a layout puts behind
them. -/
theorem Literal.IsFew.digits_lt (few : literal.IsFew layout number) (room : layout.most ≤ 16)
    (shortest : number.IsShortest spec mantissa exponent) (short : mantissa < 2 ^ 53) :
    literal.digits < Literal.significandLimit := by
  change _ < 2 ^ 64
  rcases few with same | below
  · have below := shortest.digits_lt
    omega
  · calc literal.digits
        < 10 ^ (layout.most + 1).toNat := below
      _ ≤ 10 ^ 17 := Nat.pow_le_pow_right (by decide) (by omega)
      _ ≤ 2 ^ 64 := by decide

theorem Literal.Shows.positive (shows : literal.Shows number) (some : 0 < number.digits) :
    0 < literal.digits := by
  obtain ⟨shift, same, -⟩ := shows
  rw [same]
  exact Nat.mul_pos some (Nat.pow_pos (by decide))

theorem isSome_scale?_last : ∀ place : Fin 3,
    let number := (Binary.ofParts .binary64 (2 ^ 53 - 1 - place.val) 971).shortest .even
    number.exponent = 292 ∧ (Literal.scale? number.digits 292).isSome = true := by
  decide +kernel

/-- The shortest decimal of a double has a reading. -/
theorem isSome_scaled?_double (canonical : Canonical .binary64 mantissa exponent)
    (bounded : Bounded .binary64 exponent)
    (shows : literal.Shows ((Binary.ofParts .binary64 mantissa exponent).shortest .even))
    (few : literal.IsFew .double ((Binary.ofParts .binary64 mantissa exponent).shortest .even)) :
    literal.scaled?.isSome = true := by
  have shortest := moderate_double.isShortest canonical bounded .even
  have below : mantissa < 2 ^ 53 := canonical.below
  have most : exponent ≤ 971 := by
    change exponent + 1023 + 52 + 1 < 2 ^ 11 at bounded
    omega
  have taken := few.digits_lt (by decide) shortest below
  by_cases last : exponent = 971 ∧ 2 ^ 53 - 3 ≤ mantissa
  · -- rounding the significand and the power might make the last three numbers too large
    obtain ⟨rfl, least⟩ := last
    obtain ⟨power, some⟩ := isSome_scale?_last ⟨2 ^ 53 - 1 - mantissa, by omega⟩
    have same : 2 ^ 53 - 1 - (2 ^ 53 - 1 - mantissa) = mantissa := by omega
    dsimp only at power some
    rw [same] at power some
    obtain ⟨shift, digits, place, unshifted | tenths⟩ := shows
    · rw [unshifted, Nat.pow_eq, Nat.pow_zero, Nat.mul_one] at digits
      rw [unshifted, power] at place
      rw [Literal.scaled?_eq taken, Option.isSome_map, digits, place]
      exact some
    · have long : 10 ^ 20 ≤ literal.digits := by
        have shifted : 20 ≤ shift := by omega
        rw [digits]
        exact (Nat.pow_le_pow_right (by decide) shifted).trans
          (Nat.le_mul_of_pos_left _ shortest.positive)
      exact absurd (long.trans_lt taken) (by decide)
  · refine Literal.isSome_scaled? taken (le_trans (shows.value_eq.trans_le shortest.rounds.upper) ?_)
    have unit : (0 : ℚ) < 2 ^ 971 := pow_pos two_pos _
    rcases eq_or_ne exponent 971 with rfl | other
    · have inside : (mantissa : ℚ) + 4 ≤ 2 ^ 53 := by
        have inside : mantissa + 4 ≤ 2 ^ 53 := by omega
        exact_mod_cast inside
      have same : (2 : ℚ) ^ (971 : ℤ) = 2 ^ 971 := zpow_natCast 2 971
      rw [same]
      exact mul_le_mul_of_nonneg_right (by linarith) unit.le
    · have inside : (mantissa : ℚ) + 1 ≤ 2 ^ 53 := by exact_mod_cast below
      have half : 2 * (2 : ℚ) ^ exponent ≤ 2 ^ 971 := by
        rw [← zpow_one_add₀ two_ne_zero, ← zpow_natCast]
        exact zpow_le_zpow_right₀ one_le_two (by push_cast; omega)
      calc (mantissa + 1 / 2 : ℚ) * 2 ^ exponent
          ≤ 2 ^ 53 * 2 ^ exponent := mul_le_mul_of_nonneg_right (by linarith) (by positivity)
        _ = 2 ^ 52 * (2 * 2 ^ exponent) := by ring
        _ ≤ 2 ^ 52 * 2 ^ 971 := mul_le_mul_of_nonneg_left half (by positivity)
        _ ≤ (2 ^ 53 - 7 / 2) * 2 ^ 971 := mul_le_mul_of_nonneg_right (by norm_num) unit.le

/-- The shortest decimal of a number of single precision has a reading in double precision. -/
theorem isSome_scaled?_single (canonical : Canonical .binary32 mantissa exponent)
    (bounded : Bounded .binary32 exponent)
    (shows : literal.Shows ((Binary.ofParts .binary32 mantissa exponent).shortest .even))
    (few : literal.IsFew .single ((Binary.ofParts .binary32 mantissa exponent).shortest .even)) :
    literal.scaled?.isSome = true := by
  have shortest := moderate_single.isShortest canonical bounded .even
  have below : mantissa < 2 ^ 24 := canonical.below
  have most : exponent ≤ 104 := by
    change exponent + 127 + 23 + 1 < 2 ^ 8 at bounded
    omega
  have taken := few.digits_lt (by decide) shortest (by omega)
  refine Literal.isSome_scaled? taken (le_trans (shows.value_eq.trans_le shortest.rounds.upper) ?_)
  have inside : (mantissa : ℚ) + 1 ≤ 2 ^ 24 := by exact_mod_cast below
  have step : (2 : ℚ) ^ exponent ≤ 2 ^ 971 := by
    rw [← zpow_natCast]
    exact zpow_le_zpow_right₀ one_le_two (by push_cast; omega)
  have unit : (0 : ℚ) < 2 ^ 971 := pow_pos two_pos _
  calc (mantissa + 1 / 2 : ℚ) * 2 ^ exponent
      ≤ 2 ^ 24 * 2 ^ exponent := mul_le_mul_of_nonneg_right (by linarith) (by positivity)
    _ ≤ 2 ^ 24 * 2 ^ 971 := mul_le_mul_of_nonneg_left step (by positivity)
    _ ≤ (2 ^ 53 - 7 / 2) * 2 ^ 971 := mul_le_mul_of_nonneg_right (by norm_num) unit.le

/-- A decimal with few digits is no further away from what it rounds to than its own size. -/
theorem Scaled.IsShortest.value_le (shortest : number.IsShortest spec mantissa exponent)
    (positive : 0 < mantissa) {value : ℚ} (rounds : Rounds spec value mantissa exponent) :
    number.value ≤ 3 * value := by
  have some : (1 : ℚ) ≤ mantissa := by exact_mod_cast positive
  have unit : (0 : ℚ) < 2 ^ exponent := by positivity
  have upper := shortest.rounds.upper
  have lower := rounds.lower
  nlinarith

/-- The significand and the power of ten of what is written out for a number are kept exactly if the
number is the nearest one to a decimal with few digits and few places. -/
theorem Literal.Shows.isExact (shows : literal.Shows number)
    (shortest : number.IsShortest spec mantissa exponent) (some : 0 < mantissa) {digits places : Nat}
    (positive : 0 < digits) (few : digits < 10 ^ 14) (near : places ≤ 22)
    (rounds : Rounds spec (digits / 10 ^ places) mantissa exponent) :
    literal.digits < 2 ^ 53 ∧ literal.lastPower.natAbs ≤ 22 := by
  have turned : (Scaled.mk digits (-places)).value = digits / 10 ^ places := by
    rw [Scaled.value, zpow_neg, zpow_natCast, div_eq_mul_inv]
  have coarse : -(places : ℤ) ≤ number.exponent :=
    shortest.coarsest ⟨digits, -places⟩ positive (turned ▸ rounds)
  have size := shortest.value_le some rounds
  have few : (digits : ℚ) < 10 ^ 14 := by exact_mod_cast few
  have scale : (1 : ℚ) ≤ 10 ^ places := one_le_pow₀ (by norm_num)
  have below : number.value * 10 ^ places < 3 * 10 ^ 14 := by
    have whole : (digits / 10 ^ places : ℚ) * 10 ^ places = digits := by field_simp
    nlinarith
  have nonnegative : 0 ≤ number.value := by
    unfold Scaled.value
    positivity
  have small : number.value < 3 * 10 ^ 14 := by nlinarith
  have worth := shows.value_eq
  obtain ⟨shift, same, power, rfl | tenths⟩ := shows
  · rw [Nat.pow_eq, Nat.pow_zero, Nat.mul_one] at same
    rw [Nat.cast_zero, sub_zero] at power
    have one : (1 : ℚ) ≤ number.digits := by exact_mod_cast shortest.positive
    constructor
    · have bound : (number.digits : ℚ) < 3 * 10 ^ 14 := by
        refine lt_of_le_of_lt ?_ below
        have shifted : (1 : ℚ) ≤ 10 ^ (number.exponent + places) :=
          one_le_zpow₀ (by norm_num) (by omega)
        rw [Scaled.value, mul_assoc, ← zpow_natCast, ← zpow_add₀ (by norm_num)]
        exact le_mul_of_one_le_right (by positivity) shifted
      have bound : number.digits < 3 * 10 ^ 14 := by exact_mod_cast bound
      rw [same]
      exact bound.trans (by decide)
    · have bound : (10 : ℚ) ^ number.exponent < 10 ^ (22 : ℤ) := by
        calc (10 : ℚ) ^ number.exponent
            ≤ number.digits * 10 ^ number.exponent := le_mul_of_one_le_left (by positivity) one
          _ < 3 * 10 ^ 14 := small
          _ < 10 ^ (22 : ℤ) := by norm_num
      have bound := (zpow_lt_zpow_iff_right₀ (by norm_num : (1 : ℚ) < 10)).1 bound
      rw [power]
      omega
  · rw [tenths]
    refine ⟨?_, by decide⟩
    rw [Literal.value, tenths, zpow_neg_one] at worth
    have bound : (literal.digits : ℚ) < 3 * 10 ^ 15 := by
      have whole : (literal.digits : ℚ) = number.value * 10 := by rw [← worth]; field_simp
      linarith
    have bound : literal.digits < 3 * 10 ^ 15 := by exact_mod_cast bound
    exact bound.trans (by decide)

end Decimal

end LightingDesk
