import LightingDesk.Document.Written
/-!
Documents that values are read from. A notation says how its documents show booleans, numbers,
texts, lists, records and variants; what a type makes of them does not depend on the notation.
-/

namespace LightingDesk

/-- The fields that a document gives for a record. If they are not `named`, they were given by
their places alone, from the first on. -/
structure Row (δ : Type) where
  fields : List (String × δ)
  named : Bool

/-- A notation. Nothing is the answer where a document shows something else. -/
class Source (δ : Type) where
  boolean? : δ → Option Bool
  natural? : δ → Option Nat
  integer? : δ → Option Int
  single? : δ → Option Float32
  double? : δ → Option Float
  text? : δ → Option String
  list? : δ → Option (List δ)
  pair? : δ → Option (δ × δ)
  /-- The value under the name of its type. -/
  wrapped? : String → δ → Option δ
  /-- A value that may be absent. -/
  optional? : δ → Option (Option δ)
  /-- The fields of a record of the given name, of which the given ones are known. A known field
  must not stand twice, and other fields are passed over. -/
  record? : String → List String → δ → Option (Row δ)
  variantName? : δ → Option String
  /-- Whether a variant has no contents. -/
  isBare : δ → Bool
  /-- The one value that a variant contains. -/
  variantValue? : δ → Option δ
  /-- The fields of its own that a variant contains. -/
  variantRecord? : List String → δ → Option (Row δ)

/-- Types whose values are kept in documents. -/
class Stored (α : Type) where
  written : α → Written
  read? : {δ : Type} → [Source δ] → δ → Option α

namespace Row

variable {δ α : Type} [Source δ] [Stored α]

def field? (row : Row δ) (name : String) : Option δ := row.fields.lookup name

def required (row : Row δ) (name : String) : Option α := (row.field? name).bind Stored.read?

/-- A field with a value for documents that leave it out. -/
def defaulted (row : Row δ) (name : String) (value : α) : Option α :=
  match row.field? name with
  | some document => Stored.read? document
  | none => some value

end Row

/-- The field names of a record and whether a row may use them: names stand at most once. -/
def Row.ofNamed? {δ : Type} (known : List String) (fields : List (String × δ)) :
    Option (Row δ) :=
  let fields := fields.filter fun field => known.contains field.1
  if (fields.map Prod.fst).Nodup then some ⟨fields, true⟩ else none

/-- Fields by their places; there must not be more than the record has. -/
def Row.ofPlaces? {δ : Type} (known : List String) (items : List δ) : Option (Row δ) :=
  if items.length ≤ known.length then some ⟨known.zip items, false⟩ else none

/-! ### Values that every document has -/

/-- A value of an enumeration, shown as a bare variant with its label. -/
def bareOf? {δ α : Type} [Source δ] (label : α → String) (values : List α) (document : δ) :
    Option α :=
  if Source.isBare document then
    (Source.variantName? document).bind fun name => values.find? fun value => label value == name
  else none

instance : Stored Bool where
  written := .boolean
  read? := Source.boolean?

instance : Stored String where
  written := .text
  read? := Source.text?

instance : Stored Float where
  written := .double
  read? := Source.double?

instance : Stored Float32 where
  written := .single
  read? := Source.single?

/-- A natural number below a bound. -/
def below? (bound : Nat) (value : Nat) : Option Nat := if value < bound then some value else none

instance : Stored UInt8 where
  written value := .integer value.toNat
  read? document := ((Source.natural? document).bind (below? UInt8.size)).map Nat.toUInt8

instance : Stored UInt16 where
  written value := .integer value.toNat
  read? document := ((Source.natural? document).bind (below? UInt16.size)).map Nat.toUInt16

instance : Stored UInt32 where
  written value := .integer value.toNat
  read? document := ((Source.natural? document).bind (below? UInt32.size)).map Nat.toUInt32

instance : Stored UInt64 where
  written value := .integer value.toNat
  read? document := ((Source.natural? document).bind (below? UInt64.size)).map Nat.toUInt64

instance : Stored Int64 where
  written value := .integer value.toInt
  read? document :=
    (Source.integer? document).bind fun value =>
      if Int64.minValue.toInt ≤ value ∧ value ≤ Int64.maxValue.toInt then
        some (Int64.ofInt value)
      else none

instance {α : Type} [Stored α] : Stored (List α) where
  written items := .list (items.map Stored.written)
  read? document := (Source.list? document).bind fun items => items.mapM Stored.read?

instance {α β : Type} [Stored α] [Stored β] : Stored (α × β) where
  written value := .pair (Stored.written value.1) (Stored.written value.2)
  read? document := do
    let (first, second) ← Source.pair? document
    some (← Stored.read? first, ← Stored.read? second)

instance {α : Type} [Stored α] : Stored (Option α) where
  written value :=
    match value with
    | some value => .present (Stored.written value)
    | none => .absent
  read? document := do
    match ← Source.optional? document with
    | some inner => some (some (← Stored.read? inner))
    | none => some none

/-- A value that may be absent. Among named fields it may be left out as a whole. -/
def Row.optional {δ α : Type} [Source δ] [Stored α] (row : Row δ) (name : String) :
    Option (Option α) :=
  match row.field? name with
  | some document => Stored.read? document
  | none => if row.named then some none else none

/-- A field that is written only if its value is present. -/
def Written.ifPresent {α : Type} [Stored α] (name : String) (value : Option α) :
    List (String × Written) :=
  match value with
  | some value => [(name, .present (Stored.written value))]
  | none => []

end LightingDesk
