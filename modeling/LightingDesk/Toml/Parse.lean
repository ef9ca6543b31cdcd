import LightingDesk.Toml.Scalar
/-!
Reading TOML texts: lines with keys and values, and headers that say which table they belong to.
Keys have a limited number of parts, and arrays and tables in values nest to a limited depth.
-/

namespace LightingDesk.Toml

def isBareKey (c : Char) : Bool := c.isAlphanum || c = '_' || c = '-'

def skipGap (chars : List Char) : List Char := chars.dropWhile isGap

/-- What follows a comment, if there is one; it ends before the end of its line. -/
def skipComment (chars : List Char) : Option (List Char) :=
  match chars with
  | '#' :: rest =>
      let comment := rest.takeWhile fun c => c != '\n'
      let after := rest.drop comment.length
      let comment := match comment.getLast? with
        | some '\r' => if after.isEmpty then comment else comment.dropLast
        | _ => comment
      if comment.any isForbidden then none else some after
  | rest => some rest

/-- Skips blanks, comments and line ends. -/
def skipLines (comment : Bool) : List Char → Option (List Char)
  | [] => some []
  | '\n' :: rest => skipLines false rest
  | '\r' :: '\n' :: rest => skipLines false rest
  | c :: rest =>
      if comment then if isForbidden c then none else skipLines true rest
      else if isGap c then skipLines false rest
      else if c = '#' then skipLines true rest
      else some (c :: rest)

/-- What follows the end of a line, behind blanks and a comment. -/
def endLine (chars : List Char) : Option (List Char) :=
  match skipComment (skipGap chars) with
  | some [] => some []
  | some ('\n' :: rest) | some ('\r' :: '\n' :: rest) => some rest
  | _ => none

def takeSimpleKey (chars : List Char) : Option (String × List Char) :=
  match chars with
  | '"' :: rest => takeLine '"' rest
  | '\'' :: rest => takeLine '\'' rest
  | chars =>
      let name := chars.takeWhile isBareKey
      if name.isEmpty then none else some (String.ofList name, chars.drop name.length)

/-- One more than a key may have parts, and than values may nest. -/
def depthLimit : Nat := 80

/-- A key of at most so many parts: the path to its table, in reverse order, and its last name. -/
def takeKey : Nat → List String → List Char → Option (List String × String × List Char)
  | 0, _, _ => none
  | steps + 1, path, chars =>
      match takeSimpleKey (skipGap chars) with
      | none => none
      | some (name, rest) =>
          match skipGap rest with
          | '.' :: rest => takeKey steps (name :: path) rest
          | rest => some (path, name, rest)

mutual

/-- Reads a value that may nest to the given depth. -/
def takeValue : Nat → Nat → List Char → Option (Toml × List Char)
  | 0, _, _ => none
  | steps + 1, depth, chars =>
      match chars, depth with
      | '[' :: rest, depth + 1 =>
          (takeItems steps depth [] rest).map fun (items, rest) => (.array items, rest)
      | '\x7b' :: rest, depth + 1 =>
          match skipGap rest with
          | '\x7d' :: rest => some (.table [], rest)
          | rest =>
              (takeInline steps depth [] rest).map fun (entries, rest) =>
                (.table (entriesToToml entries), rest)
      | chars, _ => takeScalar chars

/-- Values up to a closing bracket, newest first in `items`. -/
def takeItems : Nat → Nat → List Toml → List Char → Option (List Toml × List Char)
  | 0, _, _, _ => none
  | steps + 1, depth, items, chars =>
      match skipLines false chars with
      | none => none
      | some (']' :: rest) => some (items.reverse, rest)
      | some chars =>
          match takeValue steps depth chars with
          | none => none
          | some (item, rest) =>
              match skipLines false rest with
              | some (',' :: rest) => takeItems steps depth (item :: items) rest
              | some (']' :: rest) => some ((item :: items).reverse, rest)
              | _ => none

/-- Keys and values on one line up to a closing brace. -/
def takeInline : Nat → Nat → Entries → List Char → Option (Entries × List Char)
  | 0, _, _, _ => none
  | steps + 1, depth, entries, chars =>
      match takeKey (depthLimit - 1) [] chars with
      | some (path, name, '=' :: rest) =>
          match takeValue steps depth (skipGap rest) with
          | none => none
          | some (value, rest) =>
              match addAt path.reverse name value entries, skipGap rest with
              | some entries, ',' :: rest => takeInline steps depth entries rest
              | some entries, '\x7d' :: rest => some (entries, rest)
              | _, _ => none
      | _ => none

end

/-- The text that has been read so far: everything, and the path of the present table. -/
structure State where
  entries : Entries
  path : List String

def State.start : State := ⟨[], []⟩

def State.addValue? (state : State) (path : List String) (name : String) (value : Toml) :
    Option State :=
  (alter .path (addAt path name value) state.path state.entries).map fun entries =>
    { state with entries }

def State.openTable? (state : State) (path : List String) (name : String) : Option State :=
  (alter .path (openTable name) path state.entries).map fun entries =>
    ⟨entries, path ++ [name]⟩

def State.openItem? (state : State) (path : List String) (name : String) : Option State :=
  (alter .path (openItem name) path state.entries).map fun entries => ⟨entries, path ++ [name]⟩

/-- One line with a header or a value. A value takes at most as many steps as it has characters. -/
def takeStatement (steps : Nat) (state : State) (chars : List Char) :
    Option (State × List Char) :=
  match chars with
  | '[' :: '[' :: rest =>
      match takeKey (depthLimit - 1) [] rest with
      | some (path, name, ']' :: ']' :: rest) =>
          (state.openItem? path.reverse name).map fun state => (state, rest)
      | _ => none
  | '[' :: rest =>
      match takeKey (depthLimit - 1) [] rest with
      | some (path, name, ']' :: rest) =>
          (state.openTable? path.reverse name).map fun state => (state, rest)
      | _ => none
  | chars =>
      match takeKey (depthLimit - 1) [] chars with
      | some (path, name, '=' :: rest) =>
          match takeValue steps (depthLimit - 1) (skipGap rest) with
          | some (value, rest) =>
              (state.addValue? path.reverse name value).map fun state => (state, rest)
          | none => none
      | _ => none

def takeStatements : Nat → State → List Char → Option State
  | 0, _, _ => none
  | steps + 1, state, chars =>
      match skipLines false chars with
      | none => none
      | some [] => some state
      | some chars =>
          match takeStatement steps state chars with
          | none => none
          | some (state, rest) => (endLine rest).bind (takeStatements steps state)

/-- The table of a whole text. Every line takes a character or more, so as many steps as there are
characters are enough. -/
def parse? (text : String) : Option Toml :=
  let chars := match text.toList with
    | '\uFEFF' :: rest => rest
    | chars => chars
  (takeStatements (chars.length + 1) .start chars).map fun state =>
    .table (entriesToToml state.entries)

end LightingDesk.Toml
