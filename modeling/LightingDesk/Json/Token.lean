import LightingDesk.Json
/-!
The tokens of JSON texts. Numbers have no leading zeros, texts no control characters; blanks stand
only between tokens.
-/

namespace LightingDesk.Json

inductive Token where
  | openObject
  | closeObject
  | openArray
  | closeArray
  | colon
  | comma
  | null
  | boolean (value : Bool)
  | integer (value : Int)
  | decimal (literal : Decimal.Literal)
  | text (value : String)
  /-- A text with half of a surrogate pair. -/
  | garbled
deriving DecidableEq

namespace Token

def isSpace (c : Char) : Bool := c = ' ' || c = '\n' || c = '\t' || c = '\r'

def hexValue? (c : Char) : Option Nat :=
  if '0' ≤ c ∧ c ≤ '9' then some (c.toNat - 48)
  else if 'a' ≤ c ∧ c ≤ 'f' then some (c.toNat - 87)
  else if 'A' ≤ c ∧ c ≤ 'F' then some (c.toNat - 55)
  else none

/-- The code unit of four hexadecimal digits. -/
def unit? (a b c d : Char) : Option Nat := do
  let a ← hexValue? a
  let b ← hexValue? b
  let c ← hexValue? c
  let d ← hexValue? d
  some (((a * 16 + b) * 16 + c) * 16 + d)

def isHighSurrogate (unit : Nat) : Bool := 0xD800 ≤ unit && unit ≤ 0xDBFF

def isLowSurrogate (unit : Nat) : Bool := 0xDC00 ≤ unit && unit ≤ 0xDFFF

def joinSurrogates (high low : Nat) : Char :=
  Char.ofNat (0x10000 + (high - 0xD800) * 0x400 + (low - 0xDC00))

/-- The character that a letter after a backslash stands for. -/
def shortEscape? : Char → Option Char
  | '"' => some '"'
  | '\\' => some '\\'
  | '/' => some '/'
  | 'b' => some '\x08'
  | 'f' => some '\x0c'
  | 'n' => some '\n'
  | 'r' => some '\r'
  | 't' => some '\t'
  | _ => none

/-- The characters of a text up to its closing quote, newest first in `taken`. `high` is the first
half of a surrogate pair that stands just before, and `intact` is false once a half was met
alone. -/
def scanText (taken : List Char) (high : Option Nat) (intact : Bool) :
    List Char → Option (Token × List Char)
  | [] => none
  | '"' :: rest =>
      some (if intact && high.isNone then text (String.ofList taken.reverse) else garbled, rest)
  | '\\' :: 'u' :: a :: b :: c :: d :: rest =>
      match unit? a b c d, high with
      | none, _ => none
      | some unit, some high =>
          if isLowSurrogate unit then
            scanText (joinSurrogates high unit :: taken) none intact rest
          else scanText taken none false rest
      | some unit, none =>
          if isHighSurrogate unit then scanText taken (some unit) intact rest
          else if isLowSurrogate unit then scanText taken none false rest
          else scanText (Char.ofNat unit :: taken) none intact rest
  | '\\' :: c :: rest =>
      match shortEscape? c with
      | none => none
      | some escaped => scanText (escaped :: taken) none (intact && high.isNone) rest
  | c :: rest =>
      if c.toNat < 0x20 then none
      else scanText (c :: taken) none (intact && high.isNone) rest

/-- The value of a number without fraction and power of ten. Minus zero is kept as a decimal. -/
def ofDigits (negative : Bool) (digits : List Nat) : Token :=
  let value := Decimal.valueOfDigits digits
  if negative then
    if value = 0 ∨ -value < Int64.minValue.toInt then decimal ⟨true, digits, [], 0⟩
    else integer (-value)
  else if UInt64.size ≤ value then decimal ⟨false, digits, [], 0⟩
  else integer value

def scanUnsigned (negative : Bool) (chars : List Char) : Option (Token × List Char) :=
  let (whole, rest) := Decimal.Literal.takeDigits chars
  if whole.isEmpty || (whole.head? == some 0 && 1 < whole.length) then none
  else
    match
      match rest with
      | '.' :: rest =>
          let (fraction, rest) := Decimal.Literal.takeDigits rest
          if fraction.isEmpty then none else some (fraction, rest)
      | rest => some ([], rest) with
    | none => none
    | some (fraction, rest) =>
        match Decimal.Literal.takeExponent rest with
        | none => none
        | some (exponent, after) =>
            if fraction.isEmpty && !rest.head?.any fun c => c = 'e' || c = 'E' then
              some (ofDigits negative whole, after)
            else some (decimal ⟨negative, whole, fraction, exponent⟩, after)

def scanNumber : List Char → Option (Token × List Char)
  | '-' :: rest => scanUnsigned true rest
  | chars => scanUnsigned false chars

/-- The token that a text begins with, and what follows it. -/
def next? : List Char → Option (Token × List Char)
  | '{' :: rest => some (openObject, rest)
  | '}' :: rest => some (closeObject, rest)
  | '[' :: rest => some (openArray, rest)
  | ']' :: rest => some (closeArray, rest)
  | ':' :: rest => some (colon, rest)
  | ',' :: rest => some (comma, rest)
  | '"' :: rest => scanText [] none true rest
  | 'n' :: 'u' :: 'l' :: 'l' :: rest => some (null, rest)
  | 't' :: 'r' :: 'u' :: 'e' :: rest => some (boolean true, rest)
  | 'f' :: 'a' :: 'l' :: 's' :: 'e' :: rest => some (boolean false, rest)
  | chars => scanNumber chars

/-- The tokens of a text, newest first in `taken`. Each takes a character or more, so as many
steps as there are characters are enough. -/
def scanAll : Nat → List Token → List Char → Option (List Token)
  | 0, _, _ => none
  | steps + 1, taken, chars =>
      match chars.dropWhile isSpace with
      | [] => some taken.reverse
      | chars =>
          match next? chars with
          | none => none
          | some (token, rest) => scanAll steps (token :: taken) rest

def scan? (chars : List Char) : Option (List Token) := scanAll (chars.length + 1) [] chars

end Token

end LightingDesk.Json
