import LightingDesk.Path
import LightingDesk.Text.Blank
import LightingDesk.Text.Letter
/-!
Settings of the log: its level, where it goes, and how many files are kept.
-/

namespace LightingDesk

inductive LogLevel where
  | off
  | error
  | warn
  | info
  | debug
  | trace
deriving DecidableEq, Repr

namespace LogLevel

def label : LogLevel → String
  | off => "off"
  | error => "error"
  | warn => "warn"
  | info => "info"
  | debug => "debug"
  | trace => "trace"

/-- The levels in the order of their numbers. -/
def all : List LogLevel := [off, error, warn, info, debug, trace]

/-- A number that names a level: digits, perhaps after a plus sign. -/
def number? (text : List Char) : Option Nat :=
  let digits := match text with
    | '+' :: rest => rest
    | rest => rest
  if digits.isEmpty || !digits.all Char.isDigit then none
  else some (digits.foldl (fun value c => value * 10 + (c.toNat - 48)) 0)

/-- The level of a number or of a name in any case. The empty text is the level of errors. -/
def parse? (text : String) : Option LogLevel :=
  match (number? text.toList).bind fun number => all[number]? with
  | some level => some level
  | none =>
      if text.isEmpty then some error
      else all.find? fun level => Text.sameLetters level.label text

end LogLevel

structure LogSettings where
  level : String
  consoleOutput : Bool
  fileOutput : Bool
  directory : String
  maxFiles : UInt64
deriving DecidableEq, Repr

namespace LogSettings

def standard : LogSettings := ⟨"info", true, false, "logs", 10⟩

/-- The directory that has to be there before anything is logged. -/
def neededDirectory? (settings : LogSettings) : Option String :=
  if settings.fileOutput then some settings.directory else none

/-- The level that is in force; a text that names none stands for the usual one. -/
def effectiveLevel (settings : LogSettings) : LogLevel :=
  (LogLevel.parse? (Text.trim settings.level)).getD .info

end LogSettings

end LightingDesk
