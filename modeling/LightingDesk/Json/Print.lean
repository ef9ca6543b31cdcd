import LightingDesk.Decimal.Layout
import LightingDesk.Identifier
import LightingDesk.Json
/-!
Writing JSON texts, on one line or with one value a line and two blanks a level. Only the quote, the
backslash and control characters are escaped. Floating-point numbers have the fewest digits that
read back.
-/

namespace LightingDesk.Json

def escape (c : Char) : List Char :=
  match c with
  | '"' => ['\\', '"']
  | '\\' => ['\\', '\\']
  | '\x08' => ['\\', 'b']
  | '\x0c' => ['\\', 'f']
  | '\n' => ['\\', 'n']
  | '\r' => ['\\', 'r']
  | '\t' => ['\\', 't']
  | c => if c.toNat < 0x20 then '\\' :: 'u' :: Identifier.hexDigits 4 c.toNat else [c]

def quote (text : String) : List Char := '"' :: text.toList.flatMap escape ++ ['"']

def nullText : List Char := ['n', 'u', 'l', 'l']

def booleanText (value : Bool) : List Char :=
  if value then ['t', 'r', 'u', 'e'] else ['f', 'a', 'l', 's', 'e']

def integerText (value : Int) : List Char := (toString value).toList

/-- The text of a decimal as it was written, but with the digit `0` where the whole part is
missing. -/
def literalText (literal : Decimal.Literal) : List Char :=
  Decimal.sign literal.negative ++ literal.whole.flatMap Decimal.digitText ++
    (if literal.fraction.isEmpty then [] else '.' :: literal.fraction.flatMap Decimal.digitText) ++
    (if literal.exponent = 0 then [] else 'e' :: Decimal.exponentText literal.exponent)

def singleText (value : Float32) : List Char :=
  ((Decimal.Parts.ofFloat32 value).laidOut? .single).getD nullText

def doubleText (value : Float) : List Char :=
  ((Decimal.Parts.ofFloat value).laidOut? .double).getD nullText

mutual

def compact : Json → List Char
  | null | unreadable => nullText
  | boolean value => booleanText value
  | integer value => integerText value
  | decimal literal => literalText literal
  | single value => singleText value
  | double value => doubleText value
  | text value => quote value
  | array [] => ['[', ']']
  | array (first :: rest) => '[' :: compact first ++ compactItems rest
  | object [] => ['{', '}']
  | object ((name, first) :: rest) =>
      '{' :: quote name ++ ':' :: compact first ++ compactMembers rest

def compactItems : List Json → List Char
  | [] => [']']
  | item :: rest => ',' :: compact item ++ compactItems rest

def compactMembers : List (String × Json) → List Char
  | [] => ['}']
  | (name, value) :: rest => ',' :: quote name ++ ':' :: compact value ++ compactMembers rest

end

/-- A new line at a level. -/
def newLine (level : Nat) : List Char := '\n' :: List.replicate (2 * level) ' '

mutual

def pretty (level : Nat) : Json → List Char
  | null | unreadable => nullText
  | boolean value => booleanText value
  | integer value => integerText value
  | decimal literal => literalText literal
  | single value => singleText value
  | double value => doubleText value
  | text value => quote value
  | array [] => ['[', ']']
  | array (first :: rest) =>
      '[' :: newLine (level + 1) ++ pretty (level + 1) first ++ prettyItems level rest
  | object [] => ['{', '}']
  | object ((name, first) :: rest) =>
      '{' :: newLine (level + 1) ++ quote name ++ ':' :: ' ' :: pretty (level + 1) first ++
        prettyMembers level rest

def prettyItems (level : Nat) : List Json → List Char
  | [] => newLine level ++ [']']
  | item :: rest =>
      ',' :: newLine (level + 1) ++ pretty (level + 1) item ++ prettyItems level rest

def prettyMembers (level : Nat) : List (String × Json) → List Char
  | [] => newLine level ++ ['}']
  | (name, value) :: rest =>
      ',' :: newLine (level + 1) ++ quote name ++ ':' :: ' ' :: pretty (level + 1) value ++
        prettyMembers level rest

end

def render (value : Json) : String := String.ofList value.compact

def renderPretty (value : Json) : String := String.ofList (value.pretty 0)

end LightingDesk.Json
