/-!
The shortest decimal of a binary number: of the decimals that round to it, one with the fewest
digits, and of those the nearest. A decimal is a whole number of tens, hundreds, tenths and so on;
such numbers form a grid, and the coarsest grid with a point among the decimals that round to the
number holds the answer. Where two points are equally near, either the even one or the upper one is
taken.
-/

namespace LightingDesk.Decimal

/-- A positive binary number `significand * 2 ^ exponent`. At the lower end of a binade
(`narrowBelow`) the next number below is half as far away as the one above. -/
structure Binary where
  significand : Nat
  exponent : Int
  narrowBelow : Bool
deriving DecidableEq, Repr

/-- Which of two equally near points is taken. -/
inductive Tie where
  | even
  | upper
deriving DecidableEq, Repr

/-- A decimal `digits * 10 ^ exponent`. -/
structure Scaled where
  digits : Nat
  exponent : Int
deriving DecidableEq, Repr

namespace Binary

/-- A number in fields of the given widths: a zero exponent stands for the lowest binade without a
leading one. -/
def ofFields (fractionBits bias : Nat) (exponent fraction : Nat) : Binary :=
  if exponent = 0 then ⟨fraction, 1 - (bias + fractionBits : Nat), false⟩
  else
    ⟨Nat.pow 2 fractionBits + fraction, (exponent : Int) - (bias + fractionBits : Nat),
      fraction = 0 && 1 < exponent⟩

/-- The point of the grid of multiples of `10 ^ power` that rounds to the number and is nearest to
it, if there is one. Everything is compared in quarters of the distance to the next number, times
a common denominator. -/
def gridPoint? (tie : Tie) (number : Binary) (power : Int) : Option Nat :=
  let quarters := 4 * number.significand
  let numerator := Nat.pow 2 (number.exponent - 2).toNat * Nat.pow 10 (-power).toNat
  let unit := Nat.pow 2 (2 - number.exponent).toNat * Nat.pow 10 power.toNat
  let value := quarters * numerator
  let low := (quarters - if number.narrowBelow then 1 else 2) * numerator
  let high := (quarters + 2) * numerator
  let inside (point : Nat) : Bool :=
    if number.significand % 2 = 0 then low ≤ point * unit && point * unit ≤ high
    else low < point * unit && point * unit < high
  let below := value / unit
  let above := below + 1
  if below ≠ 0 ∧ inside below then
    if inside above then
      let toBelow := value - below * unit
      let toAbove := above * unit - value
      if toAbove < toBelow ∨ (toAbove = toBelow ∧ (tie = .upper ∨ below % 2 = 1)) then some above
      else some below
    else some below
  else if inside above then some above
  else none

/-- Tries grids from the coarser to the finer. -/
def search (tie : Tie) (number : Binary) : Nat → Int → Scaled
  | 0, _ => ⟨0, 0⟩
  | tries + 1, power =>
      match number.gridPoint? tie power with
      | some point => ⟨point, power⟩
      | none => search tie number tries (power - 1)

/-- A power of ten above the number: a bit is worth a little less than 0.30103 digits. -/
def powerAbove (number : Binary) : Int :=
  ((number.significand.log2 : Int) + 1 + number.exponent) * 30103 / 100000 + 1

def shortest (tie : Tie) (number : Binary) : Scaled := number.search tie 400 number.powerAbove

end Binary

end LightingDesk.Decimal
