import LightingDesk.Decimal.Literal
/-!
JSON values. Members of objects keep their order, and a name may stand more than once. Numbers are
kept as they are written, or as the floating-point numbers that they are to be written for.
-/

namespace LightingDesk

inductive Json where
  | null
  | boolean (value : Bool)
  /-- A number without fraction and power of ten that fits into 64 bits, with or without a sign. -/
  | integer (value : Int)
  /-- Any other number that is written out. -/
  | decimal (literal : Decimal.Literal)
  | single (value : Float32)
  | double (value : Float)
  | text (value : String)
  | array (items : List Json)
  | object (members : List (String × Json))
  /-- A text with half of a surrogate pair, or an object with such a name. It is well formed, but
  it cannot be read as anything. -/
  | unreadable
deriving Inhabited

namespace Json

/-- The value of the first member of a name. -/
def member? (name : String) : Json → Option Json
  | object members => members.lookup name
  | _ => none

end Json

end LightingDesk
