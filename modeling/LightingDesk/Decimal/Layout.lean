import LightingDesk.Decimal.Shortest
/-!
Written forms of floating-point numbers. All print the shortest decimal that reads back. A layout
says when a power of ten is split off, and takes the even one of two decimals that are equally
near; without a layout the one further from zero is taken.
-/

namespace LightingDesk.Decimal

/-- Decimals whose point lies behind digit number `least` to `most` are written without a power of
ten, always with a point. -/
structure Layout where
  least : Int
  most : Int
deriving DecidableEq, Repr

def Layout.double : Layout := ⟨-4, 16⟩

def Layout.single : Layout := ⟨-5, 13⟩

def digitText (value : Nat) : List Char := Nat.toDigits 10 value

def zeros (count : Nat) : List Char := List.replicate count '0'

/-- Digits and a power of ten, without splitting one off: `1200.0`, `12.34`, `0.0012`. A whole
number has a point and a zero if `pointed`. -/
def positional (pointed : Bool) (number : Scaled) : List Char :=
  let digits := digitText number.digits
  let point := (digits.length : Int) + number.exponent
  if 0 ≤ number.exponent then
    digits ++ zeros number.exponent.toNat ++ (if pointed then ['.', '0'] else [])
  else if 0 < point then digits.take point.toNat ++ '.' :: digits.drop point.toNat
  else '0' :: '.' :: (zeros (-point).toNat ++ digits)

/-- A power of ten, always with its sign. -/
def exponentText (exponent : Int) : List Char :=
  (if exponent < 0 then '-' else '+') :: digitText exponent.natAbs

def Layout.write (layout : Layout) (number : Scaled) : List Char :=
  let digits := digitText number.digits
  let point := (digits.length : Int) + number.exponent
  if layout.least ≤ point ∧ point ≤ layout.most then positional true number
  else
    match digits with
    | [] => []
    | [digit] => digit :: 'e' :: exponentText (point - 1)
    | digit :: rest => digit :: '.' :: (rest ++ 'e' :: exponentText (point - 1))

/-- The parts of a floating-point number. -/
inductive Parts where
  | notANumber
  | infinite (negative : Bool)
  | zero (negative : Bool)
  | finite (negative : Bool) (magnitude : Binary)
deriving DecidableEq, Repr

def Parts.ofFields (fractionBits exponentBits : Nat) (bits : Nat) : Parts :=
  let fraction := bits % Nat.pow 2 fractionBits
  let exponent := bits / Nat.pow 2 fractionBits % Nat.pow 2 exponentBits
  let negative := bits / Nat.pow 2 (fractionBits + exponentBits) % 2 = 1
  if exponent = Nat.pow 2 exponentBits - 1 then
    if fraction = 0 then .infinite negative else .notANumber
  else if exponent = 0 ∧ fraction = 0 then .zero negative
  else
    let bias := Nat.pow 2 (exponentBits - 1) - 1
    .finite negative (.ofFields fractionBits bias exponent fraction)

def Parts.ofFloat (x : Float) : Parts := .ofFields 52 11 x.toBits.toNat

def Parts.ofFloat32 (x : Float32) : Parts := .ofFields 23 8 x.toBits.toNat

def sign (negative : Bool) : List Char := if negative then ['-'] else []

/-- The text of a finite number in a layout; other numbers have none. -/
def Parts.laidOut? (layout : Layout) : Parts → Option (List Char)
  | .notANumber | .infinite _ => none
  | .zero negative => some (sign negative ++ ['0', '.', '0'])
  | .finite negative magnitude => some (sign negative ++ layout.write (magnitude.shortest .even))

/-- The text of any number without a power of ten; a whole number has a point and a zero if
`pointed`. -/
def Parts.plain (pointed : Bool) : Parts → List Char
  | .notANumber => ['N', 'a', 'N']
  | .infinite negative => sign negative ++ ['i', 'n', 'f']
  | .zero negative => sign negative ++ '0' :: (if pointed then ['.', '0'] else [])
  | .finite negative magnitude => sign negative ++ positional pointed (magnitude.shortest .upper)

end LightingDesk.Decimal
