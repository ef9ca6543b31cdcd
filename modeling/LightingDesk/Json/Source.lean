import LightingDesk.Document.Source
/-!
JSON as a notation. A record is an object or the array of its fields in their order; a variant is
its name or an object whose one member has that name. Null stands for what is absent, and for
nothing else but the contents of a bare variant.
-/

namespace LightingDesk.Json

/-- A number of 64 bits in single precision, rounded once. -/
def integerSingle (value : Int) : Float32 :=
  let size := value.natAbs.toUInt64.toFloat32
  if value < 0 then -size else size

def integerDouble (value : Int) : Float :=
  let size := value.natAbs.toUInt64.toFloat
  if value < 0 then -size else size

def natural? : Json → Option Nat
  | integer value => if 0 ≤ value then some value.toNat else none
  | _ => none

def integer? : Json → Option Int
  | integer value => some value
  | _ => none

/-- Decimals are read in double precision first. -/
def single? : Json → Option Float32
  | integer value => some (integerSingle value)
  | decimal literal => literal.scaled?.map Float.toFloat32
  | single value => some value
  | double value => some value.toFloat32
  | _ => none

def double? : Json → Option Float
  | integer value => some (integerDouble value)
  | decimal literal => literal.scaled?
  | single value => some value.toFloat
  | double value => some value
  | _ => none

def boolean? : Json → Option Bool
  | boolean value => some value
  | _ => none

def text? : Json → Option String
  | text value => some value
  | _ => none

def list? : Json → Option (List Json)
  | array items => some items
  | _ => none

def pair? : Json → Option (Json × Json)
  | array [first, second] => some (first, second)
  | _ => none

def optional? : Json → Option (Option Json)
  | null => some none
  | value => some (some value)

def row? (known : List String) : Json → Option (Row Json)
  | object members => Row.ofNamed? known members
  | array items => Row.ofPlaces? known items
  | _ => none

def variantName? : Json → Option String
  | text name => some name
  | object [(name, _)] => some name
  | _ => none

def isBare : Json → Bool
  | text _ | object [(_, null)] => true
  | _ => false

def variantValue? : Json → Option Json
  | object [(_, value)] => some value
  | _ => none

instance : Source Json where
  boolean? := boolean?
  natural? := natural?
  integer? := integer?
  single? := single?
  double? := double?
  text? := text?
  list? := list?
  pair? := pair?
  wrapped? _ := some
  optional? := optional?
  record? _ := row?
  variantName? := variantName?
  isBare := isBare
  variantValue? := variantValue?
  variantRecord? known value := (variantValue? value).bind (row? known)

end LightingDesk.Json
