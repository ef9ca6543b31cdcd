import LightingDesk.Document.Source
import LightingDesk.Ron.Token
/-!
What it means that a document shows a written value, whatever its notation, and which types are read
back from every document that shows them.
-/

namespace LightingDesk

open Stored (written)

namespace Written

section Appearance

variable {δ : Type} [Source δ]

mutual

/-- A document shows a written value if its notation finds there what was written. A record has to
be found under every list of known fields that has its own among them. -/
def AppearsAs : Written → δ → Prop
  | boolean value, document => Source.boolean? document = some value
  | integer value, document =>
      Source.integer? document = some value ∧
        ∀ natural : Nat, value = natural → Source.natural? document = some natural
  | single value, document => Source.single? document = some value
  | double value, document => Source.double? document = some value
  | text value, document => Source.text? document = some value
  | absent, document => Source.optional? document = some none
  | present value, document =>
      ∃ inner, Source.optional? document = some (some inner) ∧ value.AppearsAs inner
  | list items, document =>
      ∃ documents, Source.list? document = some documents ∧ ItemsAppearAs items documents
  | pair first second, document =>
      ∃ one other, Source.pair? document = some (one, other) ∧
        first.AppearsAs one ∧ second.AppearsAs other
  | wrapped name value, document =>
      ∃ inner, Source.wrapped? name document = some inner ∧ value.AppearsAs inner
  | record name fields, document =>
      ∀ known, fields.map Prod.fst ⊆ known → ∃ row,
        Source.record? name known document = some row ∧ row.named = true ∧
          FieldsAppearAs fields row.fields
  | bare name, document =>
      Source.isBare document = true ∧ Source.variantName? document = some name
  | variant name value, document =>
      Source.variantName? document = some name ∧
        ∃ inner, Source.variantValue? document = some inner ∧ value.AppearsAs inner
  | variantRecord name fields, document =>
      Source.variantName? document = some name ∧
        ∀ known, fields.map Prod.fst ⊆ known → ∃ row,
          Source.variantRecord? known document = some row ∧ row.named = true ∧
            FieldsAppearAs fields row.fields

def ItemsAppearAs : List Written → List δ → Prop
  | [], [] => True
  | item :: rest, document :: documents => item.AppearsAs document ∧ ItemsAppearAs rest documents
  | _, _ => False

def FieldsAppearAs : List (String × Written) → List (String × δ) → Prop
  | [], [] => True
  | (name, value) :: rest, (shown, document) :: documents =>
      name = shown ∧ value.AppearsAs document ∧ FieldsAppearAs rest documents
  | _, _ => False

end

theorem FieldsAppearAs.lookup {fields : List (String × Written)} {documents : List (String × δ)}
    (appear : FieldsAppearAs fields documents) {name : String} {value : Written}
    (found : fields.lookup name = some value) :
    ∃ document, documents.lookup name = some document ∧ value.AppearsAs document := by
  induction fields generalizing documents with
  | nil => cases found
  | cons field rest ih =>
      cases documents with
      | nil => exact False.elim appear
      | cons shown documents =>
          obtain ⟨first, content⟩ := field
          obtain ⟨_, document⟩ := shown
          obtain ⟨rfl, here, there⟩ := appear
          rw [List.lookup_cons] at found ⊢
          cases same : name == first with
          | true =>
              rw [same, Option.some.injEq] at found
              exact ⟨document, rfl, found ▸ here⟩
          | false =>
              rw [same] at found
              exact ih there found

theorem FieldsAppearAs.lookup_none {fields : List (String × Written)}
    {documents : List (String × δ)} (appear : FieldsAppearAs fields documents) {name : String}
    (missing : fields.lookup name = none) : documents.lookup name = none := by
  induction fields generalizing documents with
  | nil => cases documents with
    | nil => rfl
    | cons shown documents => exact False.elim appear
  | cons field rest ih =>
      cases documents with
      | nil => exact False.elim appear
      | cons shown documents =>
          obtain ⟨first, content⟩ := field
          obtain ⟨_, document⟩ := shown
          obtain ⟨rfl, -, there⟩ := appear
          rw [List.lookup_cons] at missing ⊢
          split at missing
          · cases missing
          · exact ih there missing

end Appearance

/-! ### What every notation can show -/

/-- Names that are one word, hyphens aside, and no word with a meaning of its own. -/
def isName (name : String) : Bool :=
  name.toList.all (fun c => Ron.Token.isWordCharacter c || c = '-') &&
    name.toList.head?.any Ron.Token.isWordStart &&
      !(["true", "false", "inf", "NaN", "None", "Some"].contains name)

/-- Fields of a record: there is one at least, and no name stands twice. -/
def areFields (names : List String) : Bool :=
  !names.isEmpty && names.all isName && decide names.Nodup

/-- Values that no notation takes for an absent one. -/
def IsSolid : Written → Prop
  | absent | present _ | wrapped _ _ => False
  | _ => True

mutual

/-- A value that every notation can show, nested to so many levels at most. -/
def Fits : Written → Nat → Prop
  | boolean _, _ | single _, _ | double _, _ | text _, _ | absent, _ => True
  | integer value, _ => Int64.minValue.toInt ≤ value ∧ value < UInt64.size
  | present value, levels => value.IsSolid ∧ 0 < levels ∧ value.Fits (levels - 1)
  | list items, levels => 0 < levels ∧ ItemsFit items (levels - 1)
  | pair first second, levels => 0 < levels ∧ first.Fits (levels - 1) ∧ second.Fits (levels - 1)
  | wrapped _ value, levels => 0 < levels ∧ value.Fits (levels - 1)
  | record _ fields, levels =>
      areFields (fields.map Prod.fst) = true ∧ 0 < levels ∧ FieldsFit fields (levels - 1)
  | bare name, _ => isName name = true
  | variant name value, levels => isName name = true ∧ 0 < levels ∧ value.Fits (levels - 1)
  | variantRecord name fields, levels =>
      isName name = true ∧ areFields (fields.map Prod.fst) = true ∧ 0 < levels ∧
        FieldsFit fields (levels - 1)

def ItemsFit : List Written → Nat → Prop
  | [], _ => True
  | item :: rest, levels => item.Fits levels ∧ ItemsFit rest levels

def FieldsFit : List (String × Written) → Nat → Prop
  | [], _ => True
  | (_, value) :: rest, levels => value.Fits levels ∧ FieldsFit rest levels

end

mutual

theorem Fits.mono : ∀ {value : Written} {levels more : Nat}, levels ≤ more →
    value.Fits levels → value.Fits more
  | boolean _, _, _, _, _ | single _, _, _, _, _ | double _, _, _, _, _ | text _, _, _, _, _
  | absent, _, _, _, _ => by simp [Fits]
  | integer _, _, _, _, fits => fits
  | bare _, _, _, _, fits => fits
  | present _, levels, more, le, ⟨solid, positive, fits⟩ =>
      ⟨solid, by omega, fits.mono (by omega)⟩
  | list _, levels, more, le, ⟨positive, fits⟩ => ⟨by omega, ItemsFit.mono (by omega) fits⟩
  | pair _ _, levels, more, le, ⟨positive, first, second⟩ =>
      ⟨by omega, first.mono (by omega), second.mono (by omega)⟩
  | wrapped _ _, levels, more, le, ⟨positive, fits⟩ => ⟨by omega, fits.mono (by omega)⟩
  | record _ _, levels, more, le, ⟨names, positive, fits⟩ =>
      ⟨names, by omega, FieldsFit.mono (by omega) fits⟩
  | variant _ _, levels, more, le, ⟨name, positive, fits⟩ =>
      ⟨name, by omega, fits.mono (by omega)⟩
  | variantRecord _ _, levels, more, le, ⟨name, names, positive, fits⟩ =>
      ⟨name, names, by omega, FieldsFit.mono (by omega) fits⟩

theorem ItemsFit.mono : ∀ {items : List Written} {levels more : Nat}, levels ≤ more →
    ItemsFit items levels → ItemsFit items more
  | [], _, _, _, fits => fits
  | _ :: _, _, _, le, ⟨here, there⟩ => ⟨here.mono le, ItemsFit.mono le there⟩

theorem FieldsFit.mono : ∀ {fields : List (String × Written)} {levels more : Nat}, levels ≤ more →
    FieldsFit fields levels → FieldsFit fields more
  | [], _, _, _, fits => fits
  | (_, _) :: _, _, _, le, ⟨here, there⟩ => ⟨here.mono le, FieldsFit.mono le there⟩

end

theorem FieldsFit.append {fields more : List (String × Written)} {levels : Nat}
    (first : FieldsFit fields levels) (second : FieldsFit more levels) :
    FieldsFit (fields ++ more) levels := by
  induction fields with
  | nil => exact second
  | cons field rest ih => exact ⟨first.1, ih first.2⟩

theorem areFields_nodup {names : List String} (fields : areFields names = true) : names.Nodup := by
  simp only [areFields, Bool.and_eq_true, decide_eq_true_eq] at fields
  exact fields.2

theorem isName_of_areFields {names : List String} (fields : areFields names = true) {name : String}
    (member : name ∈ names) : isName name = true := by
  simp only [areFields, Bool.and_eq_true, List.all_eq_true] at fields
  exact fields.1.2 name member

mutual

/-- What holds of every floating-point number of a written value. -/
def AllFloats (ofSingle : Float32 → Prop) (ofDouble : Float → Prop) : Written → Prop
  | boolean _ | integer _ | text _ | absent | bare _ => True
  | single value => ofSingle value
  | double value => ofDouble value
  | present value | wrapped _ value | variant _ value => value.AllFloats ofSingle ofDouble
  | list items => ItemsAllFloats ofSingle ofDouble items
  | pair first second => first.AllFloats ofSingle ofDouble ∧ second.AllFloats ofSingle ofDouble
  | record _ fields | variantRecord _ fields => FieldsAllFloats ofSingle ofDouble fields

def ItemsAllFloats (ofSingle : Float32 → Prop) (ofDouble : Float → Prop) : List Written → Prop
  | [] => True
  | item :: rest => item.AllFloats ofSingle ofDouble ∧ ItemsAllFloats ofSingle ofDouble rest

def FieldsAllFloats (ofSingle : Float32 → Prop) (ofDouble : Float → Prop) :
    List (String × Written) → Prop
  | [] => True
  | (_, value) :: rest => value.AllFloats ofSingle ofDouble ∧ FieldsAllFloats ofSingle ofDouble rest

end

mutual

theorem AllFloats.imp {ofSingle alsoSingle : Float32 → Prop} {ofDouble alsoDouble : Float → Prop}
    (single : ∀ x, ofSingle x → alsoSingle x) (double : ∀ x, ofDouble x → alsoDouble x) :
    ∀ value : Written, value.AllFloats ofSingle ofDouble → value.AllFloats alsoSingle alsoDouble
  | .boolean _, _ | .integer _, _ | .text _, _ | .absent, _ | .bare _, _ => trivial
  | .single x, holds => single x holds
  | .double x, holds => double x holds
  | .present value, holds | .wrapped _ value, holds | .variant _ value, holds =>
      AllFloats.imp single double value holds
  | .list items, holds => ItemsAllFloats.imp single double items holds
  | .pair first second, holds =>
      ⟨AllFloats.imp single double first holds.1, AllFloats.imp single double second holds.2⟩
  | .record _ fields, holds | .variantRecord _ fields, holds =>
      FieldsAllFloats.imp single double fields holds

theorem ItemsAllFloats.imp {ofSingle alsoSingle : Float32 → Prop}
    {ofDouble alsoDouble : Float → Prop} (single : ∀ x, ofSingle x → alsoSingle x)
    (double : ∀ x, ofDouble x → alsoDouble x) : ∀ items : List Written,
    ItemsAllFloats ofSingle ofDouble items → ItemsAllFloats alsoSingle alsoDouble items
  | [], _ => trivial
  | item :: rest, holds =>
      ⟨AllFloats.imp single double item holds.1, ItemsAllFloats.imp single double rest holds.2⟩

theorem FieldsAllFloats.imp {ofSingle alsoSingle : Float32 → Prop}
    {ofDouble alsoDouble : Float → Prop} (single : ∀ x, ofSingle x → alsoSingle x)
    (double : ∀ x, ofDouble x → alsoDouble x) : ∀ fields : List (String × Written),
    FieldsAllFloats ofSingle ofDouble fields → FieldsAllFloats alsoSingle alsoDouble fields
  | [], _ => trivial
  | (_, value) :: rest, holds =>
      ⟨AllFloats.imp single double value holds.1, FieldsAllFloats.imp single double rest holds.2⟩

end

mutual

theorem AllFloats.of_forall {ofSingle : Float32 → Prop} {ofDouble : Float → Prop}
    (single : ∀ x, ofSingle x) (double : ∀ x, ofDouble x) :
    ∀ value : Written, value.AllFloats ofSingle ofDouble
  | .boolean _ | .integer _ | .text _ | .absent | .bare _ => trivial
  | .single x => single x
  | .double x => double x
  | .present value | .wrapped _ value | .variant _ value => .of_forall single double value
  | .list items => ItemsAllFloats.of_forall single double items
  | .pair first second => ⟨.of_forall single double first, .of_forall single double second⟩
  | .record _ fields | .variantRecord _ fields => FieldsAllFloats.of_forall single double fields

theorem ItemsAllFloats.of_forall {ofSingle : Float32 → Prop} {ofDouble : Float → Prop}
    (single : ∀ x, ofSingle x) (double : ∀ x, ofDouble x) :
    ∀ items : List Written, ItemsAllFloats ofSingle ofDouble items
  | [] => trivial
  | item :: rest => ⟨.of_forall single double item, .of_forall single double rest⟩

theorem FieldsAllFloats.of_forall {ofSingle : Float32 → Prop} {ofDouble : Float → Prop}
    (single : ∀ x, ofSingle x) (double : ∀ x, ofDouble x) :
    ∀ fields : List (String × Written), FieldsAllFloats ofSingle ofDouble fields
  | [] => trivial
  | field :: rest => by
      obtain ⟨_, value⟩ := field
      exact ⟨.of_forall single double value, .of_forall single double rest⟩

end

end Written

/-- The members of a record are found if every one of them is known and no name stands twice. -/
theorem Row.ofNamed?_eq {δ : Type} {known : List String} {fields : List (String × δ)}
    (all : fields.map Prod.fst ⊆ known) (distinct : (fields.map Prod.fst).Nodup) :
    Row.ofNamed? known fields = some ⟨fields, true⟩ := by
  have kept : fields.filter (fun field => known.contains field.1) = fields :=
    List.filter_eq_self.2 fun field member => by
      simpa using all (List.mem_map_of_mem member)
  simp only [Row.ofNamed?, kept, if_pos distinct]

end LightingDesk
