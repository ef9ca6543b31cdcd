import LightingDesk.Ron.Token
/-!
Reading RON texts. Lists, maps and groups may end with a comma, and values nest to a limited depth.
-/

namespace LightingDesk.Ron

/-- How deep values may nest. -/
def depthLimit : Nat := 128

mutual

/-- Reads a value whose inner values may nest to the given depth. -/
def parseValue : Nat → Nat → List Token → Option (Ron × List Token)
  | 0, _, _ => none
  | _ + 1, _, [] => none
  | steps + 1, depth, token :: rest =>
      match token with
      | .number characters => some (.number characters, rest)
      | .text value => some (.text value, rest)
      | .character value => some (.character value, rest)
      | .unit => some (.unit, rest)
      | .joinedMark => parseMarked steps depth true rest
      | .word name =>
          if name = mark then
            match depth, rest with
            | _, .unit :: _ => none
            | depth + 1, .symbol '(' :: rest =>
                match parseValue steps depth rest with
                | some (value, .symbol ',' :: .symbol ')' :: rest)
                | some (value, .symbol ')' :: rest) => some (.present value, rest)
                | _ => none
            | depth, rest => parseMarked steps depth false rest
          else
            match ofWord name with
            | .bare name => parseNamed steps depth name rest
            | value => some (value, rest)
      | .rawName name => parseNamed steps depth ⟨name, true⟩ rest
      | .symbol '(' => parseGroup steps depth none rest
      | .symbol '[' => (parseItems steps depth ']' [] rest).map fun (items, rest) =>
          (.list items, rest)
      | .symbol '\x7b' => (parseEntries steps depth [] rest).map fun (entries, rest) =>
          (.map entries, rest)
      | .symbol _ => none

/-- Reads a value behind the mark of a present value. -/
def parseMarked : Nat → Nat → Bool → List Token → Option (Ron × List Token)
  | 0, _, _, _ => none
  | _ + 1, 0, _, _ => none
  | steps + 1, depth + 1, joined, tokens =>
      (parseValue steps depth tokens).map fun (value, rest) => (.marked joined value, rest)

/-- Reads what follows a name. -/
def parseNamed : Nat → Nat → Name → List Token → Option (Ron × List Token)
  | 0, _, _, _ => none
  | _ + 1, _, name, .unit :: rest => some (.group (some name) [], rest)
  | steps + 1, depth, name, .symbol '(' :: rest => parseGroup steps depth (some name) rest
  | _ + 1, _, name, rest => some (.bare name, rest)

/-- What stands in parentheses: fields, if it begins with a name and a colon. -/
def parseGroup : Nat → Nat → Option Name → List Token → Option (Ron × List Token)
  | 0, _, _, _ => none
  | steps + 1, depth, name, tokens =>
      match tokens with
      | .word _ :: .symbol ':' :: _ | .rawName _ :: .symbol ':' :: _ =>
          (parseFields steps depth [] tokens).map fun (entries, rest) =>
            (.fields name entries, rest)
      | _ =>
          (parseItems steps depth ')' [] tokens).map fun (items, rest) =>
            (.group name items, rest)

/-- Values up to the closing symbol, newest first in `items`. -/
def parseItems : Nat → Nat → Char → List Ron → List Token → Option (List Ron × List Token)
  | 0, _, _, _, _ => none
  | steps + 1, depth, close, items, tokens =>
      if tokens.head? = some (.symbol close) then some (items.reverse, tokens.drop 1)
      else
        match depth with
        | 0 => none
        | inner + 1 =>
            match parseValue steps inner tokens with
            | some (item, .symbol ',' :: rest) =>
                parseItems steps depth close (item :: items) rest
            | some (item, .symbol c :: rest) =>
                if c = close then some ((item :: items).reverse, rest) else none
            | _ => none

def parseFields : Nat → Nat → List (String × Ron) → List Token →
    Option (List (String × Ron) × List Token)
  | 0, _, _, _ => none
  | _ + 1, 0, _, _ => none
  | steps + 1, inner + 1, entries, tokens =>
      match tokens with
      | .symbol ')' :: rest => some (entries.reverse, rest)
      | .word name :: .symbol ':' :: rest | .rawName name :: .symbol ':' :: rest =>
          match parseValue steps inner rest with
          | some (value, .symbol ',' :: rest) =>
              parseFields steps (inner + 1) ((name, value) :: entries) rest
          | some (value, .symbol ')' :: rest) => some (((name, value) :: entries).reverse, rest)
          | _ => none
      | _ => none

def parseEntries : Nat → Nat → List (Ron × Ron) → List Token →
    Option (List (Ron × Ron) × List Token)
  | 0, _, _, _ => none
  | steps + 1, depth, entries, tokens =>
      if tokens.head? = some (.symbol '\x7d') then some (entries.reverse, tokens.drop 1)
      else
        match depth with
        | 0 => none
        | inner + 1 =>
            match parseValue steps inner tokens with
            | some (key, .symbol ':' :: rest) =>
                match parseValue steps inner rest with
                | some (value, .symbol ',' :: rest) =>
                    parseEntries steps depth ((key, value) :: entries) rest
                | some (value, .symbol '\x7d' :: rest) =>
                    some (((key, value) :: entries).reverse, rest)
                | _ => none
            | _ => none

end

/-! ### Extensions -/

def enable? (extensions : Extensions) : String → Option Extensions
  | "implicit_some" => some { extensions with implicitSome := true }
  | "unwrap_newtypes" => some { extensions with unwrapNewtypes := true }
  | "unwrap_variant_newtypes" => some { extensions with unwrapVariantNewtypes := true }
  | _ => none

/-- Reads names of extensions up to the end of the attribute that lists them. -/
def parseNames : Nat → Extensions → List Token → Option (Extensions × List Token)
  | 0, _, _ => none
  | steps + 1, extensions, tokens =>
      match tokens with
      | .word name :: rest | .rawName name :: rest =>
          match enable? extensions name, rest with
          | some extensions, .symbol ',' :: .symbol ')' :: .symbol ']' :: rest
          | some extensions, .symbol ')' :: .symbol ']' :: rest => some (extensions, rest)
          | some extensions, .symbol ',' :: rest => parseNames steps extensions rest
          | _, _ => none
      | _ => none

/-- Reads the attributes at the head of a text. -/
def parseHead : Nat → Extensions → List Token → Option (Extensions × List Token)
  | 0, _, _ => none
  | steps + 1, extensions, tokens =>
      match tokens with
      | .symbol '#' :: .symbol '!' :: .symbol '[' :: .word "enable" :: .symbol '(' :: rest =>
          match parseNames steps extensions rest with
          | some (extensions, rest) => parseHead steps extensions rest
          | none => none
      | .symbol '#' :: _ => none
      | rest => some (extensions, rest)

/-- A value takes one call for itself, at most two for its name and its group and one for its
place in it, so four times as many steps as there are tokens are enough. -/
def ofTokens? (tokens : List Token) : Option (Extensions × Ron) :=
  match parseHead (tokens.length + 1) .none tokens with
  | none => none
  | some (extensions, rest) =>
      match parseValue (4 * tokens.length + 1) depthLimit rest with
      | some (value, []) => some (extensions, value)
      | _ => none

def parse? (text : String) : Option (Extensions × Ron) :=
  (Token.scan? (text.dropEndWhile Json.Token.isSpace).toString.toList).bind ofTokens?

end LightingDesk.Ron
