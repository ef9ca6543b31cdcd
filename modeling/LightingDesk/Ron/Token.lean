import LightingDesk.Json.Token
import LightingDesk.Ron
/-!
The tokens of RON texts. Blanks and comments stand between tokens; block comments nest. A name that
is no plain word is marked as raw. The mark of a present value may run into a number or a raw text.
-/

namespace LightingDesk.Ron

inductive Token where
  | symbol (c : Char)
  | unit
  | word (name : String)
  | rawName (name : String)
  /-- The mark of a present value that runs into the next token. -/
  | joinedMark
  | number (characters : List Char)
  | text (value : String)
  | character (value : Char)
deriving DecidableEq

namespace Token

def isWordStart (c : Char) : Bool := ('a' ≤ c && c ≤ 'z') || ('A' ≤ c && c ≤ 'Z') || c = '_'

def isWordCharacter (c : Char) : Bool := isWordStart c || c.isDigit

def isNameCharacter (c : Char) : Bool := isWordCharacter c || c = '.' || c = '+' || c = '-'

def isNumberStart (c : Char) : Bool := c.isDigit || c = '+' || c = '-' || c = '.'

/-- What follows a block comment whose end is `level` levels away. -/
def skipBlock (level : Nat) : List Char → Option (List Char)
  | [] => none
  | '/' :: '*' :: rest => skipBlock (level + 1) rest
  | '*' :: '/' :: rest => if level = 1 then some rest else skipBlock (level - 1) rest
  | _ :: rest => skipBlock level rest

/-- Skips blanks and comments, at most as many as there are steps. -/
def skipSpace : Nat → List Char → Option (List Char)
  | 0, chars => some chars
  | steps + 1, chars =>
      match chars.dropWhile Json.Token.isSpace with
      | '/' :: '/' :: rest => skipSpace steps (rest.dropWhile fun c => c != '\n')
      | '/' :: '*' :: rest => (skipBlock 1 rest).bind (skipSpace steps)
      | '/' :: _ => none
      | rest => some rest

/-- The digits of a character's number up to the closing brace, at most six and at least one. -/
def takeScalar (count value : Nat) : List Char → Option (Char × List Char)
  | [] => none
  | '\x7d' :: rest =>
      if count = 0 ∨ ¬ value.isValidChar then none else some (Char.ofNat value, rest)
  | c :: rest =>
      match Json.Token.hexValue? c with
      | some digit => if count = 6 then none else takeScalar (count + 1) (value * 16 + digit) rest
      | none => none

/-- The character that an escape stands for; the backslash has been taken. -/
def takeEscape : List Char → Option (Char × List Char)
  | '\'' :: rest => some ('\'', rest)
  | '"' :: rest => some ('"', rest)
  | '\\' :: rest => some ('\\', rest)
  | 'n' :: rest => some ('\n', rest)
  | 'r' :: rest => some ('\r', rest)
  | 't' :: rest => some ('\t', rest)
  | '0' :: rest => some ('\x00', rest)
  | 'x' :: high :: low :: rest =>
      match Json.Token.hexValue? high, Json.Token.hexValue? low with
      | some high, some low => some (Char.ofNat (high * 16 + low), rest)
      | _, _ => none
  | 'u' :: '\x7b' :: rest => takeScalar 0 0 rest
  | _ => none

/-- The characters of a text up to its closing quote, newest first in `taken`. -/
def scanText : Nat → List Char → List Char → Option (Token × List Char)
  | 0, _, _ => none
  | _ + 1, _, [] => none
  | _ + 1, taken, '"' :: rest => some (text (String.ofList taken.reverse), rest)
  | steps + 1, taken, '\\' :: rest =>
      match takeEscape rest with
      | some (c, rest) => scanText steps (c :: taken) rest
      | none => none
  | steps + 1, taken, c :: rest => scanText steps (c :: taken) rest

/-- The characters of a raw text, which ends with a quote and as many hash marks as it began
with. -/
def scanRaw (marks : List Char) (taken : List Char) : List Char → Option (Token × List Char)
  | [] => none
  | c :: rest =>
      if c = '"' ∧ marks.isPrefixOf rest then
        some (text (String.ofList taken.reverse), rest.drop marks.length)
      else scanRaw marks (c :: taken) rest

def scanRawStart (chars : List Char) : Option (Token × List Char) :=
  let marks := chars.takeWhile fun c => c = '#'
  match chars.drop marks.length with
  | '"' :: rest => scanRaw marks [] rest
  | _ => none

def scanCharacter : List Char → Option (Token × List Char)
  | '\'' :: _ => none
  | '\\' :: rest =>
      match takeEscape rest with
      | some (c, '\'' :: rest) => some (character c, rest)
      | _ => none
  | c :: '\'' :: rest => some (character c, rest)
  | _ => none

/-- Whether a raw name or a raw text begins where a word has ended. -/
def isRunOn : List Char → Bool
  | c :: _ => isNameCharacter c || c = '#' || c = '"'
  | [] => false

/-- A plain word. Further characters of raw names must not follow it, but the mark of a present
value may run into a number, into a raw name or into a raw text. -/
def scanWord (chars : List Char) : Option (Token × List Char) :=
  let name := chars.takeWhile isWordCharacter
  let rest := chars.dropWhile isWordCharacter
  let inner := name.drop mark.length
  if isRunOn rest ∧ mark.toList.isPrefixOf name ∧
      (inner = ['r'] ∨ (inner.head?.map Char.isDigit).getD false) then
    some (joinedMark, inner ++ rest)
  else if (rest.head?.map isNameCharacter).getD false ∧ String.ofList name ≠ mark then none
  else some (word (String.ofList name), rest)

/-- The token that a text begins with, and what follows it. It takes at most as many steps as there
are characters. -/
def next? (steps : Nat) (chars : List Char) : Option (Token × List Char) :=
  match chars with
  | '"' :: rest => scanText steps [] rest
  | '\'' :: rest => scanCharacter rest
  | 'r' :: '"' :: rest => scanRawStart ('"' :: rest)
  | 'r' :: '#' :: rest =>
      match rest with
      | c :: _ =>
          if isNameCharacter c then
            some (rawName (String.ofList (rest.takeWhile isNameCharacter)),
              rest.dropWhile isNameCharacter)
          else scanRawStart ('#' :: rest)
      | [] => none
  | '(' :: ')' :: rest => some (unit, rest)
  | c :: rest =>
      if ['(', ')', '[', ']', '\x7b', '\x7d', ',', ':', '#', '!'].contains c then
        some (symbol c, rest)
      else if isNumberStart c then
        some (number (chars.takeWhile isNameCharacter), chars.dropWhile isNameCharacter)
      else if isWordStart c then scanWord chars
      else none
  | [] => none

/-- The tokens of a text, newest first in `taken`. Each takes a character or more, so as many
steps as there are characters are enough. -/
def scanAll : Nat → List Token → List Char → Option (List Token)
  | 0, _, _ => none
  | steps + 1, taken, chars =>
      match skipSpace (steps + 1) chars with
      | none => none
      | some [] => some taken.reverse
      | some chars =>
          match next? steps chars with
          | none => none
          | some (token, rest) => scanAll steps (token :: taken) rest

def scan? (chars : List Char) : Option (List Token) := scanAll (chars.length + 1) [] chars

end Token

end LightingDesk.Ron
