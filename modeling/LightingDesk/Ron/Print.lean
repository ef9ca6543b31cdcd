import LightingDesk.Decimal.Layout
import LightingDesk.Document.Written
import LightingDesk.Text.Quoted
/-!
Writing RON texts with one value a line, four blanks a level and a comma behind each. Records go
without their names, pairs stand on one line, and names with hyphens are raw.
-/

namespace LightingDesk.Ron

def nameText (name : String) : List Char :=
  let name := name.toList
  if name.contains '-' then 'r' :: '#' :: name else name

/-- A new line at a level. -/
def newLine (level : Nat) : List Char := '\n' :: List.replicate (4 * level) ' '

def parenthesized (text : List Char) : List Char := '(' :: text ++ [')']

mutual

def pretty (level : Nat) : Written → List Char
  | .boolean value => (toString value).toList
  | .integer value => (toString value).toList
  | .single value => (Decimal.Parts.ofFloat32 value).plain true
  | .double value => (Decimal.Parts.ofFloat value).plain true
  | .text value => Text.quote true value
  | .absent => "None".toList
  | .present value => "Some".toList ++ parenthesized (pretty level value)
  | .list [] => ['[', ']']
  | .list (first :: rest) =>
      '[' :: prettyItems (level + 1) (first :: rest) ++ newLine level ++ [']']
  | .pair first second =>
      parenthesized (pretty level first ++ ',' :: ' ' :: pretty level second)
  | .wrapped _ value => parenthesized (pretty level value)
  | .record _ entries => parenthesized (prettyFields level entries)
  | .bare name => nameText name
  | .variant name value => nameText name ++ parenthesized (pretty level value)
  | .variantRecord name entries => nameText name ++ parenthesized (prettyFields level entries)

def prettyItems (level : Nat) : List Written → List Char
  | [] => []
  | item :: rest => newLine level ++ pretty level item ++ ',' :: prettyItems level rest

/-- Fields one level further in, and the line on which they are closed. -/
def prettyFields (level : Nat) : List (String × Written) → List Char
  | [] => newLine level
  | (name, value) :: rest =>
      newLine (level + 1) ++ nameText name ++ ':' :: ' ' :: pretty (level + 1) value ++
        ',' :: prettyFields level rest

end

def renderPretty (value : Written) : String := String.ofList (pretty 0 value)

end LightingDesk.Ron
