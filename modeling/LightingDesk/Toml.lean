import LightingDesk.Decimal.Literal
/-!
TOML values, and the tables that a text builds up. How a table came about decides what may still
be added to it.
-/

namespace LightingDesk

inductive Toml where
  | text (value : String)
  | integer (value : Int)
  | float (reading : Decimal.Reading)
  | boolean (value : Bool)
  /-- A date, a time or both, as they are written. -/
  | moment (characters : List Char)
  | array (items : List Toml)
  | table (entries : List (String × Toml))
deriving Inhabited

namespace Toml

inductive Origin where
  /-- By a header of its own. -/
  | header
  /-- On the way to the table of a longer header. -/
  | path
  /-- By a dotted key. -/
  | dotted
deriving DecidableEq, Repr

/-- A table that is being built, or a value that is complete. -/
inductive Node where
  | value (value : Toml)
  | table (origin : Origin) (entries : List (String × Node))
  /-- An array of tables, the newest last. -/
  | tables (earlier : List Toml) (newest : List (String × Node))
deriving Inhabited

abbrev Entries := List (String × Node)

mutual

def Node.toToml : Node → Toml
  | .value value => value
  | .table _ entries => .table (entriesToToml entries)
  | .tables earlier newest => .array (earlier ++ [.table (entriesToToml newest)])

def entriesToToml : List (String × Node) → List (String × Toml)
  | [] => []
  | (name, node) :: rest => (name, node.toToml) :: entriesToToml rest

end

/-- Puts a node in the place of the one of its name, or last. -/
def put (name : String) (node : Node) : Entries → Entries
  | [] => [(name, node)]
  | (other, old) :: rest =>
      if other = name then (name, node) :: rest else (other, old) :: put name node rest

/-- Changes the table that a path leads to. Tables that are missing on the way are made. A dotted
key (`origin`) must not go through a table that has a header, and the table at its end is one that
only dotted keys have made. -/
def alter (origin : Origin) (change : Entries → Option Entries) :
    List String → Entries → Option Entries
  | [], entries => change entries
  | name :: path, entries => do
      let node ← match entries.lookup name with
        | none => (alter origin change path []).map (Node.table origin)
        | some (.table old inner) =>
            if origin = .dotted ∧ (old = .header ∨ (old = .path ∧ path = [])) then none
            else (alter origin change path inner).map (Node.table old)
        | some (.tables earlier newest) =>
            if origin = .dotted ∧ path = [] then none
            else (alter origin change path newest).map (Node.tables earlier)
        | some (.value _) => none
      some (put name node entries)

/-- Opens the table of a header. One that a longer header went through is still open. -/
def openTable (name : String) (entries : Entries) : Option Entries :=
  match entries.lookup name with
  | none => some (put name (.table .header []) entries)
  | some (.table .path inner) => some (put name (.table .header inner) entries)
  | some _ => none

/-- Adds a table to an array of tables. -/
def openItem (name : String) (entries : Entries) : Option Entries :=
  match entries.lookup name with
  | none => some (put name (.tables [] []) entries)
  | some (.tables earlier newest) =>
      some (put name (.tables (earlier ++ [.table (entriesToToml newest)]) []) entries)
  | some _ => none

def addValue (name : String) (value : Toml) (entries : Entries) : Option Entries :=
  if (entries.lookup name).isSome then none else some (put name (.value value) entries)

/-- Adds a value under a dotted key. -/
def addAt (path : List String) (name : String) (value : Toml) (entries : Entries) :
    Option Entries :=
  alter .dotted (addValue name value) path entries

end Toml

end LightingDesk
