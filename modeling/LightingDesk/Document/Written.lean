import LightingDesk.Json
/-!
The form in which values are written to documents, before a notation is chosen. It keeps apart what
some notations write alike: records and variants have names, and a value that may be absent is
marked as present.
-/

namespace LightingDesk

inductive Written where
  | boolean (value : Bool)
  | integer (value : Int)
  | single (value : Float32)
  | double (value : Float)
  | text (value : String)
  | absent
  | present (value : Written)
  | list (items : List Written)
  | pair (first second : Written)
  /-- A single value under the name of its type. -/
  | wrapped (name : String) (value : Written)
  | record (name : String) (fields : List (String × Written))
  /-- A variant without contents. -/
  | bare (name : String)
  | variant (name : String) (value : Written)
  /-- A variant whose contents are fields of its own. -/
  | variantRecord (name : String) (fields : List (String × Written))
deriving Inhabited

namespace Written

/-- JSON has no number for what is not a number or infinite, and writes null. -/
def singleJson (value : Float32) : Json := if value.isFinite then .single value else .null

def doubleJson (value : Float) : Json := if value.isFinite then .double value else .null

mutual

/-- Records are objects, and a variant with contents is an object with one member. -/
def toJson : Written → Json
  | boolean value => .boolean value
  | integer value => .integer value
  | single value => singleJson value
  | double value => doubleJson value
  | text value => .text value
  | absent => .null
  | present value => value.toJson
  | list items => .array (itemsJson items)
  | pair first second => .array [first.toJson, second.toJson]
  | wrapped _ value => value.toJson
  | record _ fields => .object (fieldsJson fields)
  | bare name => .text name
  | variant name value => .object [(name, value.toJson)]
  | variantRecord name fields => .object [(name, .object (fieldsJson fields))]

def itemsJson : List Written → List Json
  | [] => []
  | item :: rest => item.toJson :: itemsJson rest

def fieldsJson : List (String × Written) → List (String × Json)
  | [] => []
  | (name, value) :: rest => (name, value.toJson) :: fieldsJson rest

end

end Written

end LightingDesk
