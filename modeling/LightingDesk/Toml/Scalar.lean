import LightingDesk.Json.Token
import LightingDesk.Timestamp
import LightingDesk.Toml
/-!
The values of TOML that have no parts: texts in four kinds of quotes, numbers, booleans, dates and
times.
-/

namespace LightingDesk.Toml

def isForbidden (c : Char) : Bool := (c.toNat < 0x20 && c != '\t') || c.toNat = 0x7F

/-! ### Texts -/

/-- The character of a number of hexadecimal digits. -/
def scalar? (digits : List Char) : Option Char := do
  let values ← digits.mapM Json.Token.hexValue?
  let value := values.foldl (fun value digit => value * 16 + digit) 0
  if value.isValidChar then some (Char.ofNat value) else none

/-- The character that a letter after a backslash stands for. -/
def shortEscape? : Char → Option Char
  | 'b' => some '\x08'
  | 't' => some '\t'
  | 'n' => some '\n'
  | 'f' => some '\x0c'
  | 'r' => some '\r'
  | '"' => some '"'
  | '\\' => some '\\'
  | _ => none

/-- The character that an escape stands for; the backslash has been taken. -/
def takeEscape : List Char → Option (Char × List Char)
  | 'u' :: a :: b :: c :: d :: rest => (scalar? [a, b, c, d]).map fun c => (c, rest)
  | 'U' :: a :: b :: c :: d :: e :: f :: g :: h :: rest =>
      (scalar? [a, b, c, d, e, f, g, h]).map fun c => (c, rest)
  | c :: rest => (shortEscape? c).map fun c => (c, rest)
  | [] => none

theorem length_takeEscape {chars rest : List Char} {c : Char}
    (h : takeEscape chars = some (c, rest)) : rest.length < chars.length := by
  unfold takeEscape at h
  split at h
  case h_4 => cases h
  all_goals
    obtain ⟨_, _, same⟩ := Option.map_eq_some_iff.1 h
    cases same
    simp only [List.length_cons]
    omega

/-- A text up to its closing double quote, newest first in `taken`. It may hold escapes. -/
def takeEscaped (taken : List Char) (chars : List Char) : Option (String × List Char) :=
  match chars with
  | [] => none
  | c :: rest =>
      if c = '"' then some (String.ofList taken.reverse, rest)
      else if c = '\\' then
        match _h : takeEscape rest with
        | some (escaped, rest) => takeEscaped (escaped :: taken) rest
        | none => none
      else if isForbidden c then none
      else takeEscaped (c :: taken) rest
termination_by chars.length
decreasing_by
  · have := length_takeEscape _h
    simp only [List.length_cons]
    omega
  · simp

/-- A text up to its closing single quote. It holds no escapes. -/
def takeLiteral (chars : List Char) : Option (String × List Char) :=
  let body := chars.takeWhile fun c => c != '\''
  match chars.drop body.length with
  | _ :: rest => if body.any isForbidden then none else some (String.ofList body, rest)
  | [] => none

/-- A text on one line, behind its quote. -/
def takeLine (quote : Char) (rest : List Char) : Option (String × List Char) :=
  if quote = '"' then takeEscaped [] rest else takeLiteral rest

def isGap (c : Char) : Bool := c = ' ' || c = '\t'

/-- Skips blanks and ends of lines. -/
def skipBlank : List Char → List Char
  | ' ' :: rest | '\t' :: rest | '\n' :: rest | '\r' :: '\n' :: rest => skipBlank rest
  | rest => rest

/-- What follows an escaped end of a line, if there is one: the line must be blank from here on,
and blanks and empty lines after it are left out as well. -/
def skipLineEnd? (chars : List Char) : Option (List Char) :=
  match chars.dropWhile isGap with
  | '\n' :: rest | '\r' :: '\n' :: rest => some (skipBlank rest)
  | _ => none

/-- A text up to three closing quotes; one or two more belong to the text. Every end of a line is
read as one character. -/
def takeBlock (quote : Char) : Nat → List Char → List Char → Option (String × List Char)
  | 0, _, _ => none
  | _ + 1, _, [] => none
  | steps + 1, taken, c :: rest =>
      if c = quote then
        let count := 1 + (rest.takeWhile fun c => c = quote).length
        if count < 3 then
          takeBlock quote steps (List.replicate count quote ++ taken) (rest.drop (count - 1))
        else if count ≤ 5 then
          some (String.ofList (List.replicate (count - 3) quote ++ taken).reverse,
            rest.drop (count - 1))
        else none
      else if c = '\\' ∧ quote = '"' then
        match skipLineEnd? rest, takeEscape rest with
        | some rest, _ => takeBlock quote steps taken rest
        | none, some (escaped, rest) => takeBlock quote steps (escaped :: taken) rest
        | none, none => none
      else if c = '\n' then takeBlock quote steps ('\n' :: taken) rest
      else if c = '\r' ∧ rest.head? = some '\n' then takeBlock quote steps taken rest
      else if isForbidden c then none
      else takeBlock quote steps (c :: taken) rest

/-- A text behind its first quote. A line end right behind three quotes is left out. -/
def takeText (quote : Char) (rest : List Char) : Option (String × List Char) :=
  if rest.take 2 = [quote, quote] then
    let body := match rest.drop 2 with
      | '\n' :: body | '\r' :: '\n' :: body => body
      | body => body
    takeBlock quote (body.length + 1) [] body
  else takeLine quote rest

/-! ### Numbers -/

/-- Digits in a base. Single low lines may stand between digits. -/
def digitsOf? (base : Nat) : List Char → Option (List Nat)
  | [] => none
  | [c] => (digit? base c).map fun digit => [digit]
  | c :: '_' :: rest => do
      let digit ← digit? base c
      some (digit :: (← digitsOf? base rest))
  | c :: rest => do
      let digit ← digit? base c
      some (digit :: (← digitsOf? base rest))
where
  digit? (base : Nat) (c : Char) : Option Nat :=
    (Json.Token.hexValue? c).bind fun value => if value < base then some value else none

/-- Decimal digits without leading zeros. -/
def decimalOf? (chars : List Char) : Option (List Nat) :=
  (digitsOf? 10 chars).bind fun digits =>
    if digits.head? = some 0 ∧ digits ≠ [0] then none else some digits

def valueIn (base : Nat) (digits : List Nat) : Nat :=
  digits.foldl (fun value digit => value * base + digit) 0

def splitSign (chars : List Char) : Option Bool × List Char :=
  match chars with
  | '-' :: rest => (some true, rest)
  | '+' :: rest => (some false, rest)
  | rest => (none, rest)

def integer? (chars : List Char) : Option Int :=
  let bounded (value : Int) : Option Int :=
    if Int64.minValue.toInt ≤ value ∧ value ≤ Int64.maxValue.toInt then some value else none
  match chars with
  | '0' :: 'x' :: digits => (digitsOf? 16 digits).bind fun digits => bounded (valueIn 16 digits)
  | '0' :: 'o' :: digits => (digitsOf? 8 digits).bind fun digits => bounded (valueIn 8 digits)
  | '0' :: 'b' :: digits => (digitsOf? 2 digits).bind fun digits => bounded (valueIn 2 digits)
  | chars =>
      let (sign, digits) := splitSign chars
      (decimalOf? digits).bind fun digits =>
        let value : Int := valueIn 10 digits
        bounded (if sign = some true then -value else value)

/-- A fraction or a power of ten, or both, behind decimal digits; or the name of a number that has
no digits. Digits must not stand for a number above all doubles. -/
def float? (chars : List Char) : Option Decimal.Reading :=
  let (sign, unsigned) := splitSign chars
  let negative := sign = some true
  if unsigned = ['i', 'n', 'f'] then some (.infinite negative)
  else if unsigned = ['n', 'a', 'n'] then some .notANumber
  else do
    let isMark (c : Char) : Bool := c = 'e' || c = 'E'
    let mantissa := unsigned.takeWhile fun c => !isMark c
    let power := unsigned.drop mantissa.length
    let whole ← decimalOf? (mantissa.takeWhile fun c => c != '.')
    let fraction ← match mantissa.dropWhile fun c => c != '.' with
      | '.' :: digits => digitsOf? 10 digits
      | _ => some []
    let exponent : Int ← match power with
      | _ :: digits =>
          let (sign, digits) := splitSign digits
          (digitsOf? 10 digits).map fun digits =>
            let value : Int := valueIn 10 digits
            if sign = some true then -value else value
      | [] => some 0
    let reading : Decimal.Reading := .finite ⟨negative, whole, fraction, exponent⟩
    if (fraction.isEmpty && power.isEmpty) || reading.toFloat == 1.0 / 0.0 then none
    else some reading

/-! ### Dates and times -/

def twoDigits? (first second : Char) (limit : Nat) : Option Nat :=
  if first.isDigit && second.isDigit then
    let value := (first.toNat - 48) * 10 + (second.toNat - 48)
    if value ≤ limit then some value else none
  else none

def takeDate : List Char → Option (List Char)
  | a :: b :: c :: d :: '-' :: e :: f :: '-' :: g :: h :: rest => do
      let century ← twoDigits? a b 99
      let year ← twoDigits? c d 99
      let month ← twoDigits? e f 12
      let day ← twoDigits? g h 31
      if month = 0 ∨ day = 0 ∨ Calendar.daysInMonth (century * 100 + year : Nat) month < day then
        none
      else some rest
  | _ => none

def takeTime : List Char → Option (List Char)
  | a :: b :: ':' :: c :: d :: ':' :: e :: f :: rest => do
      let _ ← twoDigits? a b 23
      let _ ← twoDigits? c d 59
      let _ ← twoDigits? e f 60
      match rest with
      | '.' :: digits =>
          if (digits.takeWhile Char.isDigit).isEmpty then none
          else some (digits.dropWhile Char.isDigit)
      | rest => some rest
  | _ => none

def isZone : List Char → Bool
  | [] | ['Z'] | ['z'] => true
  | [sign, a, b, ':', c, d] =>
      (sign = '+' || sign = '-') && (twoDigits? a b 23).isSome && (twoDigits? c d 59).isSome
  | _ => false

def isMoment (chars : List Char) : Bool :=
  match takeDate chars with
  | none => takeTime chars = some []
  | some [] => true
  | some (c :: rest) => (c = 'T' || c = 't' || c = ' ') && (takeTime rest).any isZone

/-! ### Values -/

def isScalarCharacter (c : Char) : Bool :=
  c.isAlphanum || c = '_' || c = '+' || c = '-' || c = '.' || c = ':'

/-- The characters of a value without quotes. A date may be followed by a blank and a time. -/
def spanScalar (chars : List Char) : List Char × List Char :=
  let first := chars.takeWhile isScalarCharacter
  match takeDate first, chars.drop first.length with
  | some [], ' ' :: rest =>
      if (rest.head?.any Char.isDigit) then
        let second := rest.takeWhile isScalarCharacter
        (first ++ ' ' :: second, rest.drop second.length)
      else (first, ' ' :: rest)
  | _, rest => (first, rest)

def takeScalar (chars : List Char) : Option (Toml × List Char) :=
  match chars with
  | '"' :: rest => (takeText '"' rest).map fun (value, rest) => (.text value, rest)
  | '\'' :: rest => (takeText '\'' rest).map fun (value, rest) => (.text value, rest)
  | chars =>
      let (characters, rest) := spanScalar chars
      if characters = "true".toList then some (.boolean true, rest)
      else if characters = "false".toList then some (.boolean false, rest)
      else
        match integer? characters, float? characters with
        | some value, _ => some (.integer value, rest)
        | none, some reading => some (.float reading, rest)
        | none, none => if isMoment characters then some (.moment characters, rest) else none

end LightingDesk.Toml
