import LightingDesk.Decimal.Layout
import Mathlib

/-!
The bits of a floating-point number and its parts. Packing and unpacking are inverse to each other
(`pack_unpack`, `unpack_pack`), and the parts that a number is written by are those that arithmetic works
with (`Decimal.Parts.ofFields_eq`).
-/

namespace LightingDesk.Floats

open Float.Model (Format)
open Float.Model.UnpackedFloat

/-! ### Fields -/

/-- Bits put in front of others. -/
theorem toNat_append {front back : Nat} (first : BitVec front) (second : BitVec back) :
    (first ++ second).toNat = first.toNat * 2 ^ back + second.toNat := by
  rw [BitVec.toNat_append, Nat.shiftLeft_eq, Nat.mul_comm, ← Nat.two_pow_add_eq_or_of_lt second.isLt]

variable {spec : Format}

theorem toNat_packComponents (sign : Sign) (exponent : BitVec spec.exponentBits)
    (mantissa : BitVec spec.mantissaBitsWithoutImplicit) :
    (packComponents spec sign exponent mantissa).toNat =
      (sign.toBitVec.toNat * 2 ^ spec.exponentBits + exponent.toNat) *
        2 ^ spec.mantissaBitsWithoutImplicit + mantissa.toNat := by
  rw [packComponents, toNat_append, toNat_append]

theorem toNat_unpackMantissa (bits : BitVec spec.numBits) :
    (unpackMantissa bits).toNat = bits.toNat % 2 ^ spec.mantissaBitsWithoutImplicit := by
  have positive := spec.hm
  simp only [unpackMantissa, BitVec.toNat_cast, BitVec.extractLsb_toNat, Nat.shiftRight_zero]
  congr 2
  omega

theorem toNat_unpackExponent (bits : BitVec spec.numBits) :
    (unpackExponent bits).toNat =
      bits.toNat / 2 ^ spec.mantissaBitsWithoutImplicit % 2 ^ spec.exponentBits := by
  have positive := spec.he
  simp only [unpackExponent, BitVec.toNat_cast, BitVec.extractLsb_toNat, Nat.shiftRight_eq_div_pow]
  congr 2
  omega

theorem toNat_unpackSign (bits : BitVec spec.numBits) :
    (unpackSign bits).toNat =
      bits.toNat / 2 ^ (spec.mantissaBitsWithoutImplicit + spec.exponentBits) % 2 := by
  simp only [unpackSign, BitVec.toNat_cast, BitVec.extractLsb_toNat, Nat.shiftRight_eq_div_pow]
  congr 1
  simp

theorem toBitVec_ofBitVec (bit : BitVec 1) : (Sign.ofBitVec bit).toBitVec = bit := by
  revert bit
  decide

theorem unpackSign_packComponents (sign : Sign) (exponent : BitVec spec.exponentBits)
    (mantissa : BitVec spec.mantissaBitsWithoutImplicit) :
    unpackSign (packComponents spec sign exponent mantissa) = sign.toBitVec := by
  apply BitVec.eq_of_toNat_eq
  rw [toNat_unpackSign, toNat_packComponents, Nat.pow_add, ← Nat.div_div_eq_div_mul,
    Nat.mul_comm _ (2 ^ spec.mantissaBitsWithoutImplicit),
    Nat.mul_add_div (Nat.two_pow_pos _), Nat.div_eq_of_lt mantissa.isLt, Nat.add_zero,
    Nat.mul_comm _ (2 ^ spec.exponentBits), Nat.mul_add_div (Nat.two_pow_pos _),
    Nat.div_eq_of_lt exponent.isLt, Nat.add_zero]
  exact Nat.mod_eq_of_lt sign.toBitVec.isLt

/-- A number is put together again from its fields. -/
theorem packComponents_unpack (bits : BitVec spec.numBits) :
    packComponents spec (Sign.ofBitVec (unpackSign bits)) (unpackExponent bits)
      (unpackMantissa bits) = bits := by
  apply BitVec.eq_of_toNat_eq
  rw [toNat_packComponents, toBitVec_ofBitVec, toNat_unpackSign, toNat_unpackExponent,
    toNat_unpackMantissa, Nat.pow_add, ← Nat.div_div_eq_div_mul]
  have below : bits.toNat / 2 ^ spec.mantissaBitsWithoutImplicit / 2 ^ spec.exponentBits < 2 := by
    rw [Nat.div_div_eq_div_mul, ← Nat.pow_add]
    refine Nat.div_lt_of_lt_mul (Nat.lt_of_lt_of_eq bits.isLt ?_)
    rw [← Nat.pow_succ, Format.numBits]
    congr 1
    omega
  rw [Nat.mod_eq_of_lt below, Nat.div_add_mod', Nat.div_add_mod']

/-! ### Packing -/

/-- There are exponents besides those of infinities and of the smallest numbers. -/
def Wide (spec : Format) : Prop := 2 ≤ spec.exponentBits

theorem two_pow_exponentBits (spec : Format) :
    2 ^ spec.exponentBits = 2 * spec.exponentBias + 2 := by
  have positive := spec.he
  have split : 2 ^ spec.exponentBits = 2 * 2 ^ (spec.exponentBits - 1) := by
    rw [← Nat.pow_succ']
    congr 1
    omega
  have some := Nat.two_pow_pos (spec.exponentBits - 1)
  rw [split, Format.exponentBias]
  omega

theorem minExponent_eq (spec : Format) :
    spec.minExponent = 1 - (spec.exponentBias : Int) - spec.mantissaBitsWithoutImplicit := by
  have some := Nat.two_pow_pos (spec.exponentBits - 1)
  have bias : ((2 ^ (spec.exponentBits - 1) : Nat) : Int) = spec.exponentBias + 1 := by
    rw [Format.exponentBias]
    omega
  rw [Format.minExponent, Format.mantissaBits]
  push_cast at bias ⊢
  omega

theorem toNat_neg_one (width : Nat) : (-BitVec.ofNat width 1).toNat = 2 ^ width - 1 := by
  rw [BitVec.neg_one_eq_allOnes, BitVec.toNat_allOnes]

/-- A mantissa and an exponent of a number of the format: the mantissa has all of its bits, or else
the exponent is the smallest one. -/
structure Canonical (spec : Format) (mantissa : Nat) (exponent : Int) : Prop where
  positive : 0 < mantissa
  below : mantissa < 2 ^ spec.mantissaBits
  least : spec.minExponent ≤ exponent
  full : 2 ^ spec.mantissaBitsWithoutImplicit ≤ mantissa ∨ exponent = spec.minExponent

/-- The exponent is not that of infinities. -/
def Bounded (spec : Format) (exponent : Int) : Prop :=
  exponent + spec.exponentBias + spec.mantissaBitsWithoutImplicit + 1 < 2 ^ spec.exponentBits

/-- The greatest exponent is that of infinities. -/
theorem unpackExponent_add_one_lt {bits : BitVec spec.numBits}
    (finite : unpackExponent bits ≠ -BitVec.ofNat spec.exponentBits 1) :
    (unpackExponent bits).toNat + 1 < 2 ^ spec.exponentBits := by
  have least := (unpackExponent bits).isLt
  have other : (unpackExponent bits).toNat ≠ 2 ^ spec.exponentBits - 1 := fun same =>
    finite (BitVec.eq_of_toNat_eq (same.trans (toNat_neg_one _).symm))
  omega

/-- Unpacked numbers that are finite have the parts of numbers of the format. -/
theorem canonical_of_unpack (wide : Wide spec) {bits : BitVec spec.numBits} {sign : Sign} {mantissa : Nat}
    {exponent : Int} {positive : 0 < mantissa}
    (parts : unpack spec bits = .finite sign mantissa exponent positive) :
    Canonical spec mantissa exponent ∧ Bounded spec exponent := by
  have small := (unpackMantissa bits).isLt
  have least := minExponent_eq spec
  have widths : 2 ^ spec.mantissaBits = 2 * 2 ^ spec.mantissaBitsWithoutImplicit := by
    rw [Format.mantissaBits, Nat.pow_add, Nat.pow_one]
  unfold unpack at parts
  dsimp only at parts
  split at parts
  next => split at parts <;> cases parts
  next finite =>
    have below := unpackExponent_add_one_lt finite
    split at parts
    next zero =>
      have capacity := two_pow_exponentBits spec
      rw [zero, BitVec.toNat_zero] at parts below
      split at parts
      next => cases parts
      next =>
        injection parts with _ mantissa exponent
        subst mantissa exponent
        refine ⟨⟨positive, by omega, by omega, .inr (by omega)⟩, ?_⟩
        unfold Bounded
        have four : 2 ^ 2 ≤ 2 ^ spec.exponentBits := Nat.pow_le_pow_right (by decide) wide
        have four := Int.ofNat_le.2 four
        push_cast at four
        omega
    next nonzero =>
      have some : (unpackExponent bits).toNat ≠ 0 := fun same =>
        nonzero (BitVec.eq_of_toNat_eq same)
      have size := toNat_append 1#1 (unpackMantissa bits)
      rw [BitVec.toNat_ofNat, Nat.mod_eq_of_lt (by decide), Nat.one_mul] at size
      injection parts with _ mantissa exponent
      subst mantissa exponent
      refine ⟨⟨positive, by omega, by omega, .inl (by omega)⟩, ?_⟩
      unfold Bounded
      have below := Int.ofNat_lt.2 below
      push_cast at below
      omega

/-- Numbers as they are kept are packed into what they were unpacked from. -/
theorem pack_unpack (wide : Wide spec) {bits : BitVec spec.numBits} (valid : spec.Valid bits) :
    pack spec (unpack spec bits) = bits := by
  have whole := packComponents_unpack bits
  have capacity := two_pow_exponentBits spec
  have four : 2 ^ 2 ≤ 2 ^ spec.exponentBits := Nat.pow_le_pow_right (by decide) wide
  unfold unpack
  dsimp only
  split
  next infinite =>
    split
    next none =>
      rw [infinite, none] at whole
      exact whole
    next some => exact (valid.eq_packedNaN infinite some).symm
  next finite =>
    have below := unpackExponent_add_one_lt finite
    split
    next small =>
      split
      next none =>
        rw [small, none] at whole
        exact whole
      next some =>
        have positive : (unpackMantissa bits).toNat ≠ 0 := fun zero =>
          some (BitVec.eq_of_toNat_eq zero)
        have short := (Nat.log2_lt positive).2 (unpackMantissa bits).isLt
        have one : ((unpackExponent bits).toNat - ((spec.exponentBias : Int) +
            spec.mantissaBitsWithoutImplicit) + 1 + spec.exponentBias +
              spec.mantissaBitsWithoutImplicit).toNat = 1 := by
          rw [small, BitVec.toNat_zero]
          omega
        unfold pack
        dsimp only
        rw [one, if_neg (by omega), if_neg (by rw [Format.mantissaBits]; omega),
          BitVec.ofNat_toNat, BitVec.setWidth_eq]
        rw [small] at whole
        exact whole
    next normal =>
      have size := toNat_append 1#1 (unpackMantissa bits)
      rw [BitVec.toNat_ofNat, Nat.mod_eq_of_lt (by decide), Nat.one_mul] at size
      have least := (unpackMantissa bits).isLt
      have bitsOf : (1#1 ++ unpackMantissa bits).toNat.log2 = spec.mantissaBitsWithoutImplicit := by
        rw [Nat.log2_eq_iff (by omega), size, Nat.pow_succ]
        omega
      have same : ((unpackExponent bits).toNat - ((spec.exponentBias : Int) +
          spec.mantissaBitsWithoutImplicit) + spec.exponentBias +
            spec.mantissaBitsWithoutImplicit).toNat = (unpackExponent bits).toNat := by
        omega
      unfold pack
      dsimp only
      rw [same, if_neg (by omega), if_pos (by rw [bitsOf, Format.mantissaBits]; omega),
        BitVec.ofNat_toNat, BitVec.setWidth_eq, size]
      have rest : BitVec.ofNat spec.mantissaBitsWithoutImplicit
          (2 ^ spec.mantissaBitsWithoutImplicit + (unpackMantissa bits).toNat) =
            unpackMantissa bits := by
        apply BitVec.eq_of_toNat_eq
        rw [BitVec.toNat_ofNat, Nat.add_mod_left, Nat.mod_eq_of_lt least]
      rw [rest]
      exact whole

theorem ofBitVec_toBitVec (sign : Sign) : Sign.ofBitVec sign.toBitVec = sign := by
  cases sign with
  | negative => rfl
  | positive => rfl

/-- Parts of a number of the format are what packing keeps. -/
theorem unpack_pack {sign : Sign} {mantissa : Nat} {exponent : Int} (positive : 0 < mantissa)
    (canonical : Canonical spec mantissa exponent) (bounded : Bounded spec exponent) :
    unpack spec (pack spec (.finite sign mantissa exponent positive)) =
      .finite sign mantissa exponent positive := by
  obtain ⟨-, below, least, full⟩ := canonical
  have lowest := minExponent_eq spec
  have widths : 2 ^ spec.mantissaBits = 2 * 2 ^ spec.mantissaBitsWithoutImplicit := by
    rw [Format.mantissaBits, Nat.pow_add, Nat.pow_one]
  obtain ⟨biased, same⟩ : ∃ biased : Nat,
      (biased : Int) = exponent + spec.exponentBias + spec.mantissaBitsWithoutImplicit :=
    ⟨_, Int.toNat_of_nonneg (by omega)⟩
  have inside : biased + 1 < 2 ^ spec.exponentBits := by
    unfold Bounded at bounded
    rw [← same] at bounded
    exact_mod_cast bounded
  unfold pack
  dsimp only
  rw [← same, Int.toNat_natCast, if_neg (by omega)]
  by_cases normal : 2 ^ spec.mantissaBitsWithoutImplicit ≤ mantissa
  · have bits : mantissa.log2 + 1 = spec.mantissaBits := by
      rw [(Nat.log2_eq_iff positive.ne').2 ⟨normal, by rw [Nat.pow_succ]; omega⟩, Format.mantissaBits]
      omega
    have field : (BitVec.ofNat spec.exponentBits biased).toNat = biased := by
      rw [BitVec.toNat_ofNat, Nat.mod_eq_of_lt (by omega)]
    have notAll : BitVec.ofNat spec.exponentBits biased ≠ -1#_ := by
      intro all
      rw [all, toNat_neg_one] at field
      omega
    have notZero : BitVec.ofNat spec.exponentBits biased ≠ 0#_ := by
      intro zero
      rw [zero, BitVec.toNat_zero] at field
      omega
    have restored : (1#1 ++ BitVec.ofNat spec.mantissaBitsWithoutImplicit mantissa).toNat =
        mantissa := by
      rw [toNat_append, BitVec.toNat_ofNat, BitVec.toNat_ofNat, Nat.mod_eq_of_lt (by decide),
        Nat.one_mul, Nat.mod_eq_sub_mod normal, Nat.mod_eq_of_lt (by omega)]
      omega
    rw [if_pos bits, unpack]
    simp only [unpackMantissa_packComponents, unpackExponent_packComponents,
      unpackSign_packComponents, ofBitVec_toBitVec, if_neg notAll, if_neg notZero, restored, field]
    congr 1
    omega
  · have lowestOne : exponent = spec.minExponent := full.resolve_left normal
    have short := (Nat.log2_lt positive.ne').2 (Nat.lt_of_not_le normal)
    have zero : BitVec.ofNat spec.exponentBits 0 ≠ -1#_ := by
      intro all
      have same := congrArg BitVec.toNat all
      rw [toNat_neg_one, BitVec.toNat_zero] at same
      omega
    have field : (BitVec.ofNat spec.mantissaBitsWithoutImplicit mantissa).toNat = mantissa := by
      rw [BitVec.toNat_ofNat, Nat.mod_eq_of_lt (Nat.lt_of_not_le normal)]
    have some : BitVec.ofNat spec.mantissaBitsWithoutImplicit mantissa ≠ 0#_ := by
      intro none
      rw [none, BitVec.toNat_zero] at field
      omega
    rw [if_neg (by rw [Format.mantissaBits]; omega), unpack]
    simp only [unpackMantissa_packComponents, unpackExponent_packComponents,
      unpackSign_packComponents, ofBitVec_toBitVec, if_neg zero, if_true, dif_neg some, field,
      BitVec.toNat_zero]
    congr 1
    omega

/-- Numbers as they are kept are told apart by their parts. -/
theorem unpack_injective (wide : Wide spec) {bits others : BitVec spec.numBits}
    (valid : spec.Valid bits) (right : spec.Valid others)
    (same : unpack spec bits = unpack spec others) : bits = others := by
  rw [← pack_unpack wide valid, same, pack_unpack wide right]

/-- The sign of a number is turned, and nothing else. -/
theorem unpack_pack_neg (wide : Wide spec) (bits : BitVec spec.numBits) :
    unpack spec (pack spec (unpack spec bits).neg) = (unpack spec bits).neg := by
  have all : BitVec.ofNat spec.exponentBits 0 ≠ -1#_ := by
    intro all
    have same := congrArg BitVec.toNat all
    have some : 2 ^ 1 < 2 ^ spec.exponentBits := Nat.pow_lt_pow_right (by decide) wide
    rw [toNat_neg_one, BitVec.toNat_ofNat, Nat.zero_mod] at same
    omega
  have quiet : BitVec.ofNat spec.mantissaBitsWithoutImplicit 1 <<<
      (spec.mantissaBitsWithoutImplicit - 1) ≠ 0#_ := by
    intro zero
    have same := congrArg BitVec.toNat zero
    have bits := spec.hm
    have one : 1 < 2 ^ spec.mantissaBitsWithoutImplicit := Nat.one_lt_two_pow bits.ne'
    have half : 2 ^ (spec.mantissaBitsWithoutImplicit - 1) < 2 ^ spec.mantissaBitsWithoutImplicit :=
      Nat.pow_lt_pow_right (by decide) (by omega)
    have some := Nat.two_pow_pos (spec.mantissaBitsWithoutImplicit - 1)
    rw [BitVec.toNat_shiftLeft, BitVec.toNat_ofNat, BitVec.toNat_zero, Nat.mod_eq_of_lt one,
      Nat.shiftLeft_eq, Nat.one_mul, Nat.mod_eq_of_lt half] at same
    omega
  cases shape : unpack spec bits with
  | notANumber => simp [Float.Model.UnpackedFloat.neg, pack, packedNaN, unpack, quiet]
  | infinity sign => simp [Float.Model.UnpackedFloat.neg, pack, packedInfinity, unpack]
  | zero sign => simp [Float.Model.UnpackedFloat.neg, pack, packedZero, unpack, all]
  | finite sign mantissa exponent positive =>
    obtain ⟨canonical, bounded⟩ := canonical_of_unpack wide shape
    exact unpack_pack positive canonical bounded

/-! ### Parts -/

def isNegative : Sign → Bool
  | .negative => true
  | .positive => false

/-- The parts that an unpacked number is written by. -/
def partsOf (spec : Format) : Float.Model.UnpackedFloat → Decimal.Parts
  | .notANumber => .notANumber
  | .infinity sign => .infinite (isNegative sign)
  | .zero sign => .zero (isNegative sign)
  | .finite sign mantissa exponent _ => .finite (isNegative sign) ⟨mantissa, exponent,
      decide (mantissa = 2 ^ spec.mantissaBitsWithoutImplicit ∧ spec.minExponent < exponent)⟩

theorem isNegative_unpackSign (bits : BitVec spec.numBits) :
    isNegative (Sign.ofBitVec (unpackSign bits)) = decide (bits.toNat / 2 ^
      (spec.mantissaBitsWithoutImplicit + spec.exponentBits) % 2 = 1) := by
  rw [← toNat_unpackSign]
  generalize unpackSign bits = bit
  revert bit
  decide

theorem ofFields_eq (bits : BitVec spec.numBits) :
    Decimal.Parts.ofFields spec.mantissaBitsWithoutImplicit spec.exponentBits bits.toNat =
      partsOf spec (unpack spec bits) := by
  have all : unpackExponent bits = -1#_ ↔
      (unpackExponent bits).toNat = 2 ^ spec.exponentBits - 1 := by
    rw [← BitVec.toNat_inj, toNat_neg_one]
  have none : unpackMantissa bits = 0#_ ↔ (unpackMantissa bits).toNat = 0 := by
    rw [← BitVec.toNat_inj, BitVec.toNat_zero]
  have lowest : unpackExponent bits = 0#_ ↔ (unpackExponent bits).toNat = 0 := by
    rw [← BitVec.toNat_inj, BitVec.toNat_zero]
  unfold Decimal.Parts.ofFields unpack
  simp only [Nat.pow_eq, ← toNat_unpackMantissa, ← toNat_unpackExponent, ← isNegative_unpackSign]
  have bias : 2 ^ (spec.exponentBits - 1) - 1 = spec.exponentBias := rfl
  have least := minExponent_eq spec
  have small := (unpackMantissa bits).isLt
  rw [bias]
  by_cases infinite : unpackExponent bits = -1#_
  · rw [if_pos infinite, if_pos (all.1 infinite)]
    by_cases zero : unpackMantissa bits = 0#_
    · rw [if_pos zero, if_pos (none.1 zero)]
      rfl
    · rw [if_neg zero, if_neg (mt none.2 zero)]
      rfl
  · rw [if_neg infinite, if_neg (mt all.2 infinite)]
    by_cases subnormal : unpackExponent bits = 0#_
    · rw [if_pos subnormal]
      by_cases zero : unpackMantissa bits = 0#_
      · rw [dif_pos zero, if_pos ⟨lowest.1 subnormal, none.1 zero⟩]
        rfl
      · rw [dif_neg zero, if_neg fun both => zero (none.2 both.2), lowest.1 subnormal,
          Decimal.Binary.ofFields, if_pos rfl, partsOf]
        congr 2
        · omega
        · symm
          rw [decide_eq_false_iff_not]
          omega
    · have size := toNat_append 1#1 (unpackMantissa bits)
      rw [BitVec.toNat_ofNat, Nat.mod_eq_of_lt (by decide), Nat.one_mul] at size
      have some := mt lowest.2 subnormal
      rw [if_neg subnormal, if_neg fun both => some both.1, Decimal.Binary.ofFields, if_neg some,
        partsOf, size, Nat.pow_eq]
      congr 2
      rw [Bool.eq_iff_iff]
      simp only [Bool.and_eq_true, decide_eq_true_eq]
      omega

theorem ofFloat_eq (x : Float) :
    Decimal.Parts.ofFloat x = partsOf .binary64 x.toModel.unpack :=
  @ofFields_eq .binary64 x.toModel.toBits.toBitVec

theorem ofFloat32_eq (x : Float32) :
    Decimal.Parts.ofFloat32 x = partsOf .binary32 x.toModel.unpack :=
  @ofFields_eq .binary32 x.toModel.toBits.toBitVec

/-- The numbers that have a text in a layout are the finite ones. -/
theorem isSome_laidOut? (spec : Format) (layout : Decimal.Layout)
    (number : Float.Model.UnpackedFloat) :
    ((partsOf spec number).laidOut? layout).isSome = number.isFinite := by
  cases number <;> rfl

end LightingDesk.Floats
