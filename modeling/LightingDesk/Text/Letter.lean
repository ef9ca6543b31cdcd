/-!
Texts compared without regard to the case of the letters A to Z. Other letters count as they are.
-/

namespace LightingDesk.Text

def sameLetters (first second : String) : Bool :=
  first.toList.map Char.toLower == second.toList.map Char.toLower

end LightingDesk.Text
