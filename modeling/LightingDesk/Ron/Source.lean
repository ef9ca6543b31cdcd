import LightingDesk.Document.Source
import LightingDesk.Ron.Parse
/-!
RON as a notation. A record stands in parentheses, with or without its name; a variant is a name,
perhaps with parentheses. Present values are marked.
-/

namespace LightingDesk.Ron

/-- A value with the extensions of its text and how many levels deeper values may nest in it. If it
is `unwrapped`, it stands for the parentheses of a variant that hold the fields of its one value. -/
structure Document where
  extensions : Extensions
  levels : Nat
  value : Ron
  unwrapped : Bool

namespace Document

def parse? (text : String) : Option Document :=
  (Ron.parse? text).map fun (extensions, value) => ⟨extensions, depthLimit, value, false⟩

/-- A value so many levels further in. -/
def inner (document : Document) (levels : Nat) (value : Ron) : Document :=
  ⟨document.extensions, document.levels - levels, value, false⟩

/-- The value where fields are not asked for. -/
def plain (document : Document) : Ron :=
  match document.unwrapped, document.value with
  | true, .group none [value] => value
  | _, value => value

def boolean? (document : Document) : Option Bool :=
  match document.plain with
  | .boolean value => some value
  | _ => none

def number? (document : Document) : Option (List Char) :=
  match document.plain with
  | .number characters => some characters
  | _ => none

def text? (document : Document) : Option String :=
  match document.plain with
  | .text value => some value
  | _ => none

def list? (document : Document) : Option (List Document) :=
  match document.plain with
  | .list items => some (items.map (document.inner 2))
  | _ => none

def pair? (document : Document) : Option (Document × Document) :=
  match document.plain with
  | .group none [first, second] => some (document.inner 2 first, document.inner 2 second)
  | _ => none

def wrapped? (type : String) (document : Document) : Option Document :=
  if document.extensions.unwrapNewtypes then some (document.inner 1 document.plain)
  else
    match document.plain with
    | .group none [value] => some (document.inner 1 value)
    | .group (some name) [value] =>
        if name.text = type then some (document.inner 1 value) else none
    | _ => none

def optional? (document : Document) : Option (Option Document) :=
  match document.plain with
  | .absent => some none
  | .present value => some (some (document.inner 1 value))
  | value =>
      if document.extensions.implicitSome then
        some (some (document.inner 1 ((marked? value).getD value)))
      else none

/-- Named fields, so many levels further in. Those that are passed over have to be readable all the
same. -/
def row? (known : List String) (document : Document) (levels : Nat)
    (entries : List (String × Ron)) : Option (Row Document) :=
  if entries.all fun entry => known.contains entry.1 ||
      entry.2.isReadable document.extensions (document.levels - levels) then
    Row.ofNamed? known (entries.map fun entry => (entry.1, document.inner levels entry.2))
  else none

def record? (type : String) (known : List String) (document : Document) :
    Option (Row Document) :=
  match document.value with
  | .fields none entries => document.row? known 2 entries
  | .unit | .group none [] => document.row? known 2 []
  | .fields (some name) entries =>
      if name.text = type then document.row? known 2 entries else none
  | .group (some name) [] => if name.text = type then document.row? known 2 [] else none
  | _ => none

def variantName? (document : Document) : Option String :=
  match document.plain with
  | .bare name | .group (some name) _ | .fields (some name) _ => some name.text
  | _ => none

def isBare (document : Document) : Bool :=
  match document.plain with
  | .bare _ => true
  | _ => false

/-- What is in the parentheses of a variant is two levels further in: the variant is one, and its
value another. -/
def variantValue? (document : Document) : Option Document :=
  match document.plain, document.extensions.unwrapVariantNewtypes with
  | .group (some _) [value], false => some (document.inner 2 value)
  | .group (some _) items, true =>
      some { document.inner 2 (.group none items) with unwrapped := true }
  | .fields (some _) entries, true =>
      some { document.inner 2 (.fields none entries) with unwrapped := true }
  | _, _ => none

def variantRecord? (known : List String) (document : Document) : Option (Row Document) :=
  match document.plain with
  | .fields (some _) entries => document.row? known 3 entries
  | .group (some _) [] => document.row? known 3 []
  | _ => none

end Document

instance : Source Document where
  boolean? := Document.boolean?
  natural? document := document.number?.bind naturalOf?
  integer? document := document.number?.bind integerOf?
  single? document := (document.number?.bind readingOf?).map Decimal.Reading.toFloat32
  double? document := (document.number?.bind readingOf?).map Decimal.Reading.toFloat
  text? := Document.text?
  list? := Document.list?
  pair? := Document.pair?
  wrapped? := Document.wrapped?
  optional? := Document.optional?
  record? := Document.record?
  variantName? := Document.variantName?
  isBare := Document.isBare
  variantValue? := Document.variantValue?
  variantRecord? := Document.variantRecord?

end LightingDesk.Ron
