import LightingDesk.Text.Extending
import LightingDesk.Text.Unprintable
/-!
Texts in double quotes. The double quote, the backslash, and characters that do not show or attach
to others are escaped, and in some places the single quote as well.
-/

namespace LightingDesk.Text

def escape (single : Bool) (c : Char) : List Char :=
  match c with
  | '\x00' => ['\\', '0']
  | '\t' => ['\\', 't']
  | '\r' => ['\\', 'r']
  | '\n' => ['\\', 'n']
  | '\\' => ['\\', '\\']
  | '"' => ['\\', '"']
  | c =>
      if c = '\'' then if single then ['\\', c] else [c]
      else if isExtending c || isUnprintable c then
        '\\' :: 'u' :: '\x7b' :: (Nat.toDigits 16 c.toNat ++ ['\x7d'])
      else [c]

/-- A text in quotes. Single quotes in it are escaped if `single`. -/
def quote (single : Bool) (text : String) : List Char :=
  '"' :: text.toList.flatMap (escape single) ++ ['"']

end LightingDesk.Text
