import LightingDesk.Text.Letter
/-!
Numbers as they are written: a sign, digits before and behind the point, and a power of ten. Two
ways of reading them are in use: exactly rounded, and by way of a 64-bit significand that is scaled
in double precision.
-/

namespace LightingDesk.Decimal

/-- Digits are kept as numbers below ten, most significant first. -/
structure Literal where
  negative : Bool
  whole : List Nat
  fraction : List Nat
  exponent : Int
deriving DecidableEq, Repr

def valueOfDigits (digits : List Nat) : Nat :=
  digits.foldl (fun value digit => value * 10 + digit) 0

/-- The value of a digit character, as long as it is one. -/
def digitOf (c : Char) : Nat := c.toNat - 48

namespace Literal

def ofInteger (value : Int) : Literal :=
  ⟨value < 0, (Nat.toDigits 10 value.natAbs).map digitOf, [], 0⟩

/-! ### Exact rounding -/

def digits (literal : Literal) : Nat := valueOfDigits (literal.whole ++ literal.fraction)

/-- The power of ten that belongs to the last digit. -/
def lastPower (literal : Literal) : Int := literal.exponent - literal.fraction.length

/-- An upper bound of the power of ten of the first digit. -/
def firstPower (literal : Literal) : Int := literal.exponent + literal.whole.length

/-- The nearest double. Powers far outside of the range of doubles need not be computed. -/
def toFloat (literal : Literal) : Float :=
  let size :=
    if literal.digits = 0 ∨ literal.firstPower < -400 then 0
    else if 400 < literal.lastPower then 1.0 / 0.0
    else Float.ofScientific literal.digits (literal.lastPower < 0) literal.lastPower.natAbs
  if literal.negative then -size else size

/-- The nearest number of single precision. -/
def toFloat32 (literal : Literal) : Float32 :=
  let size :=
    if literal.digits = 0 ∨ literal.firstPower < -400 then 0
    else if 400 < literal.lastPower then 1.0 / 0.0
    else Float32.ofScientific literal.digits (literal.lastPower < 0) literal.lastPower.natAbs
  if literal.negative then -size else size

/-! ### Scaling in double precision -/

def significandLimit : Nat := UInt64.size

/-- Digits before the point, as long as the significand stays below the limit; each further one
counts as a power of ten. -/
def takeWhole : Nat → List Nat → Nat × Nat
  | significand, [] => (significand, 0)
  | significand, digit :: rest =>
      if significand * 10 + digit < significandLimit then takeWhole (significand * 10 + digit) rest
      else (significand, rest.length + 1)

/-- Digits behind the point, as long as the significand stays below the limit; the others are
dropped. -/
def takeFraction : Nat → Nat → List Nat → Nat × Nat
  | significand, count, [] => (significand, count)
  | significand, count, digit :: rest =>
      if significand * 10 + digit < significandLimit then
        takeFraction (significand * 10 + digit) (count + 1) rest
      else (significand, count)

def largestPower : Nat := 308

def powerOfTen (power : Nat) : Float := Float.ofScientific 1 false power

/-- Divides by a power of ten, in several steps if it is no double. -/
def divide (value : Float) (power : Nat) : Float :=
  if power ≤ largestPower then value / powerOfTen power
  else if value == 0 then value
  else divide (value / powerOfTen largestPower) (power - largestPower)
termination_by power
decreasing_by
  simp only [largestPower] at *
  omega

/-- The significand in double precision, multiplied with or divided by its power of ten. A value
that is too large for a double has no reading. -/
def scaled? (literal : Literal) : Option Float :=
  let (significand, dropped) := takeWhole 0 literal.whole
  let (significand, taken) := takeFraction significand 0 literal.fraction
  let power := literal.exponent + dropped - taken
  let start := significand.toUInt64.toFloat
  let size? :=
    if power < 0 then some (divide start power.natAbs)
    else if power.toNat ≤ largestPower then
      let product := start * powerOfTen power.toNat
      if product.isInf then none else some product
    else if start == 0 then some start
    else none
  size?.map fun size => if literal.negative then -size else size

/-! ### Texts -/

/-- Splits leading decimal digits off. -/
def takeDigits (text : List Char) : List Nat × List Char :=
  ((text.takeWhile Char.isDigit).map digitOf, text.dropWhile Char.isDigit)

/-- A power of ten behind the letter `e`, or zero if there is no such letter. -/
def takeExponent (text : List Char) : Option (Int × List Char) :=
  match text with
  | c :: rest =>
      if c = 'e' ∨ c = 'E' then
        let (negative, rest) := match rest with
          | '-' :: rest => (true, rest)
          | '+' :: rest => (false, rest)
          | rest => (false, rest)
        let (digits, rest) := takeDigits rest
        if digits.isEmpty then none
        else
          let value : Int := valueOfDigits digits
          some (if negative then -value else value, rest)
      else some (0, text)
  | [] => some (0, [])

/-- An unsigned number in the loose form: digits on at least one side of an optional point. -/
def parseUnsigned (negative : Bool) (text : List Char) : Option Literal :=
  let (whole, rest) := takeDigits text
  let (fraction, rest) := match rest with
    | '.' :: rest => takeDigits rest
    | rest => ([], rest)
  if whole.isEmpty && fraction.isEmpty then none
  else
    match takeExponent rest with
    | some (exponent, []) => some ⟨negative, whole, fraction, exponent⟩
    | _ => none

end Literal

/-- What a text says about a floating-point number. -/
inductive Reading where
  | notANumber
  | infinite (negative : Bool)
  | finite (literal : Literal)
deriving DecidableEq, Repr

namespace Reading

/-- A number in the loose form with an optional sign, or one of the names of the numbers that have
no digits, in any case. -/
def parse? (text : String) : Option Reading :=
  let (negative, rest) := match text.toList with
    | '-' :: rest => (true, rest)
    | '+' :: rest => (false, rest)
    | rest => (false, rest)
  let word := String.ofList rest
  if Text.sameLetters word "inf" || Text.sameLetters word "infinity" then
    some (.infinite negative)
  else if Text.sameLetters word "nan" then some .notANumber
  else (Literal.parseUnsigned negative rest).map .finite

def toFloat : Reading → Float
  | notANumber => 0.0 / 0.0
  | infinite negative => if negative then -1.0 / 0.0 else 1.0 / 0.0
  | finite literal => literal.toFloat

def toFloat32 : Reading → Float32
  | notANumber => 0.0 / 0.0
  | infinite negative => if negative then -1.0 / 0.0 else 1.0 / 0.0
  | finite literal => literal.toFloat32

end Reading

def parseFloat? (text : String) : Option Float := (Reading.parse? text).map Reading.toFloat

def parseFloat32? (text : String) : Option Float32 := (Reading.parse? text).map Reading.toFloat32

end LightingDesk.Decimal
