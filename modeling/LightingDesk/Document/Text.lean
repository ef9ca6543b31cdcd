import LightingDesk.Json.Parse
import LightingDesk.Json.Print
import LightingDesk.Json.Source
import LightingDesk.Ron.Print
import LightingDesk.Ron.Source
/-!
Stored values as whole texts, in each notation that can be both read and written.
-/

namespace LightingDesk.Stored

variable {α : Type} [Stored α]

def toJson (value : α) : Json := (written value).toJson

def ofJson? (text : String) : Option α := (Json.parse? text).bind fun document => read? document

def ofRon? (text : String) : Option α :=
  (Ron.Document.parse? text).bind fun document => read? document

def jsonText (value : α) : String := (toJson value).renderPretty

def ronText (value : α) : String := Ron.renderPretty (written value)

end LightingDesk.Stored
