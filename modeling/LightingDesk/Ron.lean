import LightingDesk.Decimal.Literal
/-!
RON values as they are written. Which type a value is read as decides what its parentheses mean, so
groups are kept as they stand, with or without a name.
-/

namespace LightingDesk

namespace Ron

/-- A name with whether it was marked as raw. Raw names hold more characters than words do. -/
structure Name where
  text : String
  raw : Bool
deriving DecidableEq, Repr, Inhabited

end Ron

inductive Ron where
  | boolean (value : Bool)
  /-- The characters of a number. -/
  | number (characters : List Char)
  | text (value : String)
  | character (value : Char)
  /-- Parentheses with nothing between them, not even a blank. -/
  | unit
  | absent
  | present (value : Ron)
  /-- The mark of a present value without parentheses. It may run into the value, so that both are
  one word that is no name. -/
  | marked (joined : Bool) (value : Ron)
  | list (items : List Ron)
  | map (entries : List (Ron × Ron))
  /-- A name without parentheses. -/
  | bare (name : Ron.Name)
  | group (name : Option Ron.Name) (items : List Ron)
  | fields (name : Option Ron.Name) (entries : List (String × Ron))
deriving Inhabited

namespace Ron

/-- Leave to write less, given at the head of a text. -/
structure Extensions where
  /-- Values that may be absent need no mark when they are present. -/
  implicitSome : Bool
  /-- Values stand without the name of their type and its parentheses. -/
  unwrapNewtypes : Bool
  /-- The parentheses of a variant hold the fields of its one value. -/
  unwrapVariantNewtypes : Bool
deriving DecidableEq, Repr

def Extensions.none : Extensions := ⟨false, false, false⟩

/-! ### Numbers -/

def isDigitOrLine (c : Char) : Bool :=
  c.isDigit || ('a' ≤ c && c ≤ 'f') || ('A' ≤ c && c ≤ 'F') || c = '_'

def isFloatCharacter (c : Char) : Bool :=
  c.isDigit || c = 'e' || c = 'E' || c = '.' || c = '+' || c = '-'

def digitValue (c : Char) : Nat :=
  if c.isDigit then c.toNat - 48 else if 'a' ≤ c then c.toNat - 87 else c.toNat - 55

/-- The value of digits in a base. Low lines may stand anywhere but in front. -/
def digitsValue? (base : Nat) (characters : List Char) : Option Nat :=
  if characters.isEmpty || characters.head? == some '_' || !characters.all isDigitOrLine then none
  else
    let digits := (characters.filter fun c => c != '_').map digitValue
    if digits.all fun digit => digit < base then
      some (digits.foldl (fun value digit => value * base + digit) 0)
    else none

/-- A number without a sign, to the base that its first two characters name. -/
def naturalOf? : List Char → Option Nat
  | '0' :: 'x' :: rest => digitsValue? 16 rest
  | '0' :: 'b' :: rest => digitsValue? 2 rest
  | '0' :: 'o' :: rest => digitsValue? 8 rest
  | characters => digitsValue? 10 characters

def integerOf? : List Char → Option Int
  | '-' :: rest => (naturalOf? rest).map fun value => -(value : Int)
  | '+' :: rest => (naturalOf? rest).map Int.ofNat
  | characters => (naturalOf? characters).map Int.ofNat

def infinite : List Char := ['i', 'n', 'f']

def notANumber : List Char := ['N', 'a', 'N']

/-- What a floating-point number says: digits without low lines, or one of the names for what has
no digits, of which only the one for infinity may have a minus sign. -/
def readingOf? (characters : List Char) : Option Decimal.Reading :=
  if characters = infinite then some (.infinite false)
  else if characters = '-' :: infinite then some (.infinite true)
  else if characters = notANumber then some .notANumber
  else if characters.all isFloatCharacter then Decimal.Reading.parse? (String.ofList characters)
  else none

/-- Whether a number is an integer of 64 bits, which has no sign unless it is written. -/
def isInteger (characters : List Char) : Bool :=
  match integerOf? characters with
  | some value =>
      if characters.head? = some '+' ∨ characters.head? = some '-' then
        Int64.minValue.toInt ≤ value && value ≤ Int64.maxValue.toInt
      else value < UInt64.size
  | none => false

/-- Whether a number can be read without knowing its type: what is no integer has to be a
floating-point number. -/
def isNumber (characters : List Char) : Bool :=
  isInteger characters || (readingOf? characters).isSome

/-! ### Words -/

/-- The word for a present value. -/
def mark : String := "Some"

/-- What a word says that has no parentheses. -/
def ofWord (word : String) : Ron :=
  match word with
  | "true" => boolean true
  | "false" => boolean false
  | "inf" => number infinite
  | "NaN" => number notANumber
  | "None" => absent
  | word => bare ⟨word, false⟩

/-- What is left of a word behind the mark of a present value. -/
def behindMark? (name : Name) : Option String :=
  if name.raw then none
  else
    match name.text.dropPrefix? mark with
    | some rest => if rest.isEmpty then none else some rest.toString
    | none => none

/-- The value behind the mark of a present value. A word that begins with the mark also counts as
marked, unless it is raw. -/
def marked? : Ron → Option Ron
  | marked _ value => some value
  | bare name => (behindMark? name).map fun rest =>
      if rest.startsWith Char.isDigit then number rest.toList else ofWord rest
  | group (some name) items => (behindMark? name).map fun rest => group (some ⟨rest, false⟩) items
  | fields (some name) entries =>
      (behindMark? name).map fun rest => fields (some ⟨rest, false⟩) entries
  | _ => none

/-! ### Values of unknown type -/

mutual

/-- Whether a value can be read without knowing its type, with leave to nest so many levels deep.
Lists, maps and groups take a level, and so does each value in them. -/
def isReadable (extensions : Extensions) : Nat → Ron → Bool
  | _, number characters => isNumber characters
  | levels, present value =>
      match levels with
      | levels + 1 => isReadable extensions levels value
      | 0 => false
  | levels, marked joined value =>
      match levels with
      | levels + 1 =>
          extensions.implicitSome && !joined && isReadable extensions levels value
      | 0 => false
  | levels, list items => 0 < levels && allReadable extensions (levels - 1) items
  | levels, map entries => 0 < levels && entriesReadable extensions (levels - 1) entries
  | levels, group _ items => 0 < levels && allReadable extensions (levels - 1) items
  | levels, fields _ entries => 0 < levels && fieldsReadable extensions (levels - 1) entries
  | _, boolean _ | _, text _ | _, character _ | _, unit | _, absent | _, bare _ => true

def allReadable (extensions : Extensions) : Nat → List Ron → Bool
  | _, [] => true
  | levels, item :: rest =>
      0 < levels && isReadable extensions (levels - 1) item && allReadable extensions levels rest

def entriesReadable (extensions : Extensions) : Nat → List (Ron × Ron) → Bool
  | _, [] => true
  | levels, (key, value) :: rest =>
      0 < levels && isReadable extensions (levels - 1) key &&
        isReadable extensions (levels - 1) value && entriesReadable extensions levels rest

def fieldsReadable (extensions : Extensions) : Nat → List (String × Ron) → Bool
  | _, [] => true
  | levels, (_, value) :: rest =>
      0 < levels && isReadable extensions (levels - 1) value &&
        fieldsReadable extensions levels rest

end

end Ron

end LightingDesk
