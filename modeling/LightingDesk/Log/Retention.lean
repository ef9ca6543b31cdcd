import LightingDesk.Log.Settings
import LightingDesk.Timestamp
/-!
The files of a log directory. A log file has the date in its name; when there are too many, the
oldest go.
-/

namespace LightingDesk

/-- What a system names files with, and the order of names. A name need not be a text. -/
class FileName (ν : Type) where
  text? : ν → Option String
  /-- Whether a name comes before another or is the same. -/
  precedes : ν → ν → Bool
  precedes_total (name other : ν) : precedes name other || precedes other name
  precedes_trans (name other third : ν) :
    precedes name other → precedes other third → precedes name third

instance : FileName String where
  text? := some
  precedes name other := decide (name ≤ other)
  precedes_total name other := by simpa using String.le_total name other
  precedes_trans name other third before after := by
    simp only [decide_eq_true_eq] at before after ⊢
    exact String.le_trans before after

/-- A name as the system keeps it, any bytes, in the order of bytes. -/
structure RawName where
  bytes : List UInt8
deriving DecidableEq, Repr

instance : FileName RawName where
  text? name := String.fromUTF8? ⟨name.bytes.toArray⟩
  precedes name other := decide (name.bytes ≤ other.bytes)
  precedes_total name other := by simpa using List.le_total name.bytes other.bytes
  precedes_trans name other third before after := by
    simp only [decide_eq_true_eq] at before after ⊢
    exact List.le_trans before after

structure LogFile (ν : Type) where
  name : ν
  modified : Int
deriving DecidableEq, Repr

namespace LogFile

def namePrefix : String := "actflow-"

def extension : String := "log"

/-- The name of the log file of a day. -/
def nameOn (day : Timestamp) : String :=
  String.ofList
    (namePrefix.toList ++ Timestamp.yearText day.year ++ '-' :: Timestamp.digits 2 day.month ++
      '-' :: Timestamp.digits 2 day.day ++ '.' :: extension.toList)

def isLogName (name : String) : Bool :=
  namePrefix.toList.isPrefixOf name.toList && Path.extensionOf? name.toList == some extension

variable {ν : Type} [FileName ν]

/-- A file whose name is not a text is no log. -/
def isLog (file : LogFile ν) : Bool := (FileName.text? file.name).any isLogName

/-- Whether a file is removed before another or is the same: older, or as old and first by name. -/
def precedes (file other : LogFile ν) : Bool :=
  file.modified < other.modified ||
    (file.modified == other.modified && FileName.precedes file.name other.name)

end LogFile

namespace Log

variable {ν : Type} [FileName ν]

/-- The log files that are too many, oldest first. -/
def surplus (limit : Nat) (files : List (LogFile ν)) : List (LogFile ν) :=
  let logs := files.filter LogFile.isLog
  (logs.mergeSort LogFile.precedes).take (logs.length - limit)

/-- A directory after a clean-up, and how many files were removed. -/
def cleanUp [DecidableEq ν] (limit : Nat) (files : List (LogFile ν)) : Nat × List (LogFile ν) :=
  let removed := surplus limit files
  (removed.length, files.filter fun file => !removed.contains file)

end Log

end LightingDesk
