import LightingDesk.Document.Source
import LightingDesk.Toml
/-!
TOML as a notation. A record is a table or the array of its fields in their order, and what is
written is always present. A date or a time counts as a record without known fields.
-/

namespace LightingDesk.Toml

def boolean? : Toml → Option Bool
  | boolean value => some value
  | _ => none

def whole? : Toml → Option Int
  | integer value => some value
  | _ => none

def natural? : Toml → Option Nat
  | integer value => if 0 ≤ value then some value.toNat else none
  | _ => none

def single? : Toml → Option Float32
  | integer value => some (Decimal.Literal.ofInteger value).toFloat32
  | float reading => some reading.toFloat.toFloat32
  | _ => none

def double? : Toml → Option Float
  | integer value => some (Decimal.Literal.ofInteger value).toFloat
  | float reading => some reading.toFloat
  | _ => none

def text? : Toml → Option String
  | text value => some value
  | _ => none

def list? : Toml → Option (List Toml)
  | array items => some items
  | _ => none

def pair? : Toml → Option (Toml × Toml)
  | array [first, second] => some (first, second)
  | _ => none

/-- Items behind the last field are passed over. -/
def row? (known : List String) : Toml → Option (Row Toml)
  | table entries => Row.ofNamed? known entries
  | array items => some ⟨known.zip items, false⟩
  | moment _ => some ⟨[], true⟩
  | _ => none

def variantName? : Toml → Option String
  | text name => some name
  | table [(name, _)] => some name
  | _ => none

def isBare : Toml → Bool
  | text _ | table [(_, table [])] => true
  | _ => false

def variantValue? : Toml → Option Toml
  | table [(_, value)] => some value
  | _ => none

instance : Source Toml where
  boolean? := boolean?
  natural? := natural?
  integer? := whole?
  single? := single?
  double? := double?
  text? := text?
  list? := list?
  pair? := pair?
  wrapped? _ := some
  optional? document := some (some document)
  record? _ := row?
  variantName? := variantName?
  isBare := isBare
  variantValue? := variantValue?
  variantRecord? known document := (variantValue? document).bind (row? known)

end LightingDesk.Toml
