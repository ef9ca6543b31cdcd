import LightingDesk.OsFault
/-!
A working directory with the files that are known in it and around it. Paths are followed part by
part, so a path may fail although a shorter one with the same meaning does not: whatever has a part
behind it has to be a directory.
-/

namespace LightingDesk

/-- Where something is: names below the root, or below a directory so many levels above the working
directory. The innermost name comes first. -/
structure Place where
  above : Option Nat
  names : List String
deriving DecidableEq, Repr

namespace Place

def root : Place := ⟨none, []⟩

def here : Place := ⟨some 0, []⟩

def parent (place : Place) : Place :=
  match place.names with
  | [] => { place with above := place.above.map (· + 1) }
  | _ :: names => { place with names }

def child (place : Place) (name : String) : Place := { place with names := name :: place.names }

/-- Whether a place is further in than another. -/
def isInside (place other : Place) : Bool :=
  place.above == other.above && other.names.length < place.names.length &&
    other.names.isSuffixOf place.names

/-- Where a path starts. -/
def start (path : String) : Place := if path.startsWith '/' then root else here

/-- Where a path leads if it meets only directories on its way. -/
def ofPath (path : String) : Place :=
  (path.splitOn "/").foldl follow (start path)
where
  follow (place : Place) (part : String) : Place :=
    if part = "" ∨ part = "." then place else if part = ".." then place.parent else place.child part

end Place

/-- What is at a place. -/
inductive Entry where
  | file (bytes : ByteArray)
  | directory

/-- Besides those that are listed, directories are those that contain something listed. -/
structure Folder where
  files : List (Place × ByteArray)
  directories : List Place

namespace Folder

/-- The file that is empty on every system. -/
def emptyFile : String := "/dev/null"

def ofFiles (files : List (String × ByteArray)) : Folder :=
  ⟨(files ++ [(emptyFile, ByteArray.empty)]).map fun (path, bytes) => (.ofPath path, bytes), []⟩

/-- Every place without a name of its own is taken to exist. -/
def isDirectory (folder : Folder) (place : Place) : Bool :=
  place.names.isEmpty || folder.directories.contains place ||
    folder.files.any fun file => file.1.isInside place

def entry? (folder : Folder) (place : Place) : Option Entry :=
  match folder.files.lookup place with
  | some bytes => some (.file bytes)
  | none => if folder.isDirectory place then some .directory else none

/-! ### Limits -/

/-- The most bytes of a name. -/
def nameLimit : Nat := 255

/-- The least bytes of a path that is too long. -/
def pathLimit : Nat := 4096

/-- What is wrong with a path before it is followed. -/
def pathFault? (path : String) : Option OsFault :=
  if path.contains '\x00' then some .endInName
  else if path.isEmpty then some .noSuchFile
  else if pathLimit ≤ path.utf8ByteSize then some .nameTooLong
  else none

/-! ### Reading -/

/-- Goes from a directory to one of its parts. -/
def follow (folder : Folder) (place : Place) (part : String) : Except OsFault Place :=
  match folder.entry? place with
  | none => .error .noSuchFile
  | some (.file _) => .error .notADirectory
  | some .directory =>
      if nameLimit < part.utf8ByteSize then .error .nameTooLong
      else .ok (Place.ofPath.follow place part)

def followAll (folder : Folder) (path : String) (parts : List String) : Except OsFault Place :=
  match pathFault? path with
  | some fault => .error fault
  | none => parts.foldlM folder.follow (.start path)

/-- What a path leads to. -/
def find (folder : Folder) (path : String) : Except OsFault Entry := do
  match folder.entry? (← folder.followAll path (path.splitOn "/")) with
  | some entry => .ok entry
  | none => .error .noSuchFile

/-- The text of a file. -/
def text (folder : Folder) (path : String) : Except OsFault String := do
  match ← folder.find path with
  | .directory => .error .isADirectory
  | .file bytes => (String.fromUTF8? bytes).elim (.error .invalidText) .ok

/-! ### Writing -/

/-- The parts of a path without the empty ones at its end. -/
def namedParts (path : String) : List String :=
  ((path.splitOn "/").reverse.dropWhile String.isEmpty).reverse

/-- Writes a file, over the one that is there. A path with a slash at its end is no path of a
file. -/
def write (folder : Folder) (path : String) (bytes : ByteArray) : Except OsFault Folder := do
  let parts := namedParts path
  let directory ← folder.followAll path parts.dropLast
  let place ← folder.follow directory (parts.getLast?.getD "")
  if path.endsWith '/' || folder.isDirectory place then .error .isADirectory
  else
    .ok { folder with
      files := (place, bytes) :: folder.files.filter fun file => file.1 != place }

/-- A directory on the way to one that is to be there, and whether it had to be made. -/
structure Making where
  folder : Folder
  place : Place
  made : Bool

def Making.follow? (making : Making) (part : String) : Option Making :=
  if nameLimit < part.utf8ByteSize then none
  else
    let place := Place.ofPath.follow making.place part
    if place = making.place then some making
    else
      match making.folder.entry? place with
      | some (.file _) => none
      | some .directory => some ⟨making.folder, place, false⟩
      | none =>
          some ⟨{ making.folder with directories := place :: making.folder.directories }, place,
            true⟩

/-- Makes a directory and those above it, as far as they are missing. A path with a single dot at
its end cannot be made, only be there already. -/
def makeDirectory? (folder : Folder) (path : String) : Option Folder :=
  if path.isEmpty then some folder
  else if (pathFault? path).isSome then none
  else
    let parts := path.splitOn "/"
    match parts.foldlM Making.follow? ⟨folder, .start path, false⟩ with
    | some making =>
        if making.made ∧ (namedParts path).getLast? = some "." then none
        else some making.folder
    | none => none

end Folder

end LightingDesk
