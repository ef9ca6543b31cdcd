import LightingDesk.Json.Token
/-!
Reading JSON texts. Arrays and objects have no trailing commas, and a text holds one value.
-/

namespace LightingDesk.Json

/-- A member name and its value; a name that cannot be read makes the object unreadable. -/
abbrev Members := Option (List (String × Json))

def ofMembers : Members → Json
  | some members => .object members.reverse
  | none => .unreadable

def addMember (name : Option String) (value : Json) (members : Members) : Members :=
  match name, members with
  | some name, some members => some ((name, value) :: members)
  | _, _ => none

mutual

def parseValue : Nat → List Token → Option (Json × List Token)
  | 0, _ => none
  | _ + 1, [] => none
  | steps + 1, token :: rest =>
      match token with
      | .null => some (.null, rest)
      | .boolean value => some (.boolean value, rest)
      | .integer value => some (.integer value, rest)
      | .decimal literal => some (.decimal literal, rest)
      | .text value => some (.text value, rest)
      | .garbled => some (.unreadable, rest)
      | .openArray =>
          match rest with
          | .closeArray :: rest => some (.array [], rest)
          | rest => parseItems steps [] rest
      | .openObject =>
          match rest with
          | .closeObject :: rest => some (.object [], rest)
          | rest => parseMembers steps (some []) rest
      | .closeArray | .closeObject | .colon | .comma => none

/-- The items of an array up to its end, newest first in `items`. -/
def parseItems : Nat → List Json → List Token → Option (Json × List Token)
  | 0, _, _ => none
  | steps + 1, items, tokens =>
      match parseValue steps tokens with
      | some (item, .comma :: rest) => parseItems steps (item :: items) rest
      | some (item, .closeArray :: rest) => some (.array (item :: items).reverse, rest)
      | _ => none

/-- The members of an object up to its end, newest first in `members`. -/
def parseMembers : Nat → Members → List Token → Option (Json × List Token)
  | 0, _, _ => none
  | steps + 1, members, tokens =>
      match
        match tokens with
        | .text name :: .colon :: rest => some (some name, rest)
        | .garbled :: .colon :: rest => some (none, rest)
        | _ => none with
      | none => none
      | some (name, rest) =>
          match parseValue steps rest with
          | some (value, .comma :: rest) => parseMembers steps (addMember name value members) rest
          | some (value, .closeObject :: rest) =>
              some (ofMembers (addMember name value members), rest)
          | _ => none

end

/-- A value takes one call for itself and one for its place among others, so twice as many steps
as there are tokens are enough. -/
def ofTokens? (tokens : List Token) : Option Json :=
  match parseValue (2 * tokens.length + 1) tokens with
  | some (value, []) => some value
  | _ => none

def parse? (text : String) : Option Json :=
  (Token.scan? (text.dropEndWhile Token.isSpace).toString.toList).bind ofTokens?

end LightingDesk.Json
