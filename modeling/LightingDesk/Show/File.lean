import LightingDesk.Document.Text
import LightingDesk.Folder
import LightingDesk.Path
import LightingDesk.Stored.Show
/-!
Show files. A file holds a show with the version of its format and two dates, in the notation that
its extension names. Loading accepts one version only and leaves out where acts were playing.
-/

namespace LightingDesk

inductive ShowFormat where
  | ron
  | json
deriving DecidableEq, Repr

inductive ShowError where
  | os (fault : OsFault)
  | notJson
  | notRon
  | unsupportedFormat (extension : String)
  | tooLarge (size limit : Nat)
  | wrongVersion (expected found : String)
deriving DecidableEq, Repr

def ShowError.message : ShowError → String
  | os fault => s!"I/O error: {fault.message}"
  | notJson => "JSON error"
  | notRon => "RON parse error"
  | unsupportedFormat extension => s!"Unsupported show file format: {extension}"
  | tooLarge size limit => s!"Show file is {size} bytes, limit is {limit}"
  | wrongVersion expected found =>
      s!"Show file version mismatch: expected {expected}, found {found}"

/-- The notation of a path. A file without an extension is taken to be RON. -/
def ShowFormat.ofPath (path : String) : Except ShowError ShowFormat :=
  match Path.extension? path with
  | none | some "ron" | some "actflow" => .ok .ron
  | some "json" => .ok .json
  | some extension => .error (.unsupportedFormat extension)

structure ShowDates where
  created : Timestamp
  modified : Timestamp
deriving DecidableEq

structure ShowFile where
  version : String
  dates : ShowDates
  content : Show
deriving BEq

open Stored (written)

instance : Stored ShowDates where
  written dates := .record "ShowMetadata"
    [("created_at", written dates.created), ("modified_at", written dates.modified)]
  read? document := do
    let row ← Source.record? "ShowMetadata" ["created_at", "modified_at"] document
    some ⟨← row.required "created_at", ← row.required "modified_at"⟩

instance : Stored ShowFile where
  written file := .record "ShowFile"
    [("version", written file.version), ("metadata", written file.dates),
      ("show", written file.content)]
  read? document := do
    let row ← Source.record? "ShowFile" ["version", "metadata", "show"] document
    some ⟨← row.required "version", ← row.required "metadata", ← row.required "show"⟩

namespace ShowFile

def currentVersion : String := "1.0.0"

/-- The size of the largest file that is read, 16 MiB. -/
def largestSize : Nat := 16 * 1024 * 1024

def ofShow (content : Show) (now : Timestamp) : ShowFile := ⟨currentVersion, ⟨now, now⟩, content⟩

/-- Reads the text of a file. -/
def ofText (format : ShowFormat) (text : String) : Except ShowError ShowFile :=
  match format with
  | .json => (Stored.ofJson? text).elim (.error .notJson) .ok
  | .ron => (Stored.ofRon? text).elim (.error .notRon) .ok

def toText (format : ShowFormat) (file : ShowFile) : String :=
  match format with
  | .json => Stored.jsonText file
  | .ron => Stored.ronText file

/-- Loads a file of a folder. Its size is checked before its name, and its name before its
contents. -/
def load (folder : Folder) (path : String) : Except ShowError ShowFile := do
  let size :=
    match ← (folder.find path).mapError .os with
    | .directory => 0
    | .file bytes => bytes.size
  if largestSize < size then .error (.tooLarge size largestSize)
  else
    let format ← ShowFormat.ofPath path
    ofText format (← (folder.text path).mapError .os)

/-- The text that a file is saved with at a path, and the file with its new date. -/
def save (file : ShowFile) (now : Timestamp) (path : String) :
    Except ShowError (String × ShowFile) :=
  (ShowFormat.ofPath path).map fun format =>
    let file := { file with dates := { file.dates with modified := now } }
    (file.toText format, file)

end ShowFile

namespace Show

/-- Loads a show whose file has the current version. -/
def load (folder : Folder) (path : String) : Except ShowError Show := do
  let file ← ShowFile.load folder path
  if file.version = ShowFile.currentVersion then .ok file.content.atRest
  else .error (.wrongVersion ShowFile.currentVersion file.version)

/-- The text that a show is saved with at a path. -/
def save (content : Show) (now : Timestamp) (path : String) : Except ShowError String :=
  ((ShowFile.ofShow content now).save now path).map Prod.fst

end Show

end LightingDesk
