/-!
Refusals of the operating system, with the words it has for them.
-/

namespace LightingDesk

inductive OsFault where
  | noSuchFile
  | notADirectory
  | isADirectory
  | nameTooLong
  /-- A path holds the character that ends texts. -/
  | endInName
  | networkUnreachable
  | invalidText
deriving DecidableEq, Repr

def OsFault.message : OsFault → String
  | noSuchFile => "No such file or directory (os error 2)"
  | notADirectory => "Not a directory (os error 20)"
  | isADirectory => "Is a directory (os error 21)"
  | nameTooLong => "File name too long (os error 36)"
  | endInName => "file name contained an unexpected NUL byte"
  | networkUnreachable => "Network is unreachable (os error 101)"
  | invalidText => "stream did not contain valid UTF-8"

end LightingDesk
