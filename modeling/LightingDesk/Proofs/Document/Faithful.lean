import LightingDesk.Proofs.Document.Appearance
/-!
Types whose values are read back, in any notation, from every document that shows them: truth values,
texts, numbers, lists, pairs, values that may be absent and plain enumerations. Rows of records give
back the fields that were written into them.
-/

namespace LightingDesk

open Stored (written)

/-- Types whose values can be shown in every notation, nested to so many levels at most, and are read
back from each document that shows them. -/
class Faithful (α : Type) [Stored α] where
  levels : Nat
  fits : ∀ value : α, (written value).Fits levels
  reads : ∀ {δ : Type} [Source δ] {value : α} {document : δ},
    (written value).AppearsAs document → Stored.read? document = some value

/-- Types whose values are never taken for absent ones. -/
class Solid (α : Type) [Stored α] : Prop where
  solid : ∀ value : α, (written value).IsSolid

theorem Faithful.fits_of_le {α : Type} [Stored α] [Faithful α] {levels : Nat}
    (le : Faithful.levels α ≤ levels) (value : α) : (written value).Fits levels :=
  (Faithful.fits value).mono le

/-! ### Fields of records -/

namespace Written.FieldsAppearAs

variable {δ α : Type} [Source δ] [Stored α] {fields : List (String × Written)} {row : Row δ}

theorem required [Faithful α] (appear : FieldsAppearAs fields row.fields) (name : String)
    (value : α)
    (found : fields.lookup name = some (written value)) : row.required name = some value := by
  obtain ⟨document, shown, appears⟩ := appear.lookup found
  simp [Row.required, Row.field?, shown, Faithful.reads appears]

theorem defaulted [Faithful α] (appear : FieldsAppearAs fields row.fields) (name : String)
    (value standard : α) (found : fields.lookup name = some (written value)) :
    row.defaulted name standard = some value := by
  obtain ⟨document, shown, appears⟩ := appear.lookup found
  simp [Row.defaulted, Row.field?, shown, Faithful.reads appears]

theorem optional [Faithful (Option α)] (appear : FieldsAppearAs fields row.fields) (name : String)
    (value : Option α) (found : fields.lookup name = some (written value)) :
    row.optional name = some value := by
  obtain ⟨document, shown, appears⟩ := appear.lookup found
  simp [Row.optional, Row.field?, shown, Faithful.reads appears]

/-- A field that is left out if there is no value is read as absent then. -/
theorem ifPresent [Faithful (Option α)] (appear : FieldsAppearAs fields row.fields)
    (name : String) (value : Option α)
    (found : fields.lookup name = (Written.ifPresent name value).lookup name) :
    row.defaulted name none = some value := by
  cases value with
  | none =>
      have missing := appear.lookup_none found
      simp [Row.defaulted, Row.field?, missing]
  | some value =>
      refine appear.defaulted name (some value) none ?_
      simpa [Written.ifPresent, written] using found

end Written.FieldsAppearAs

/-- A field that may be left out fits as a value that may be absent does. -/
theorem Written.fieldsFit_ifPresent {α : Type} [Stored α] [Faithful α] [Solid α] {levels : Nat}
    (le : Faithful.levels α + 1 ≤ levels) (name : String) (value : Option α) :
    Written.FieldsFit (Written.ifPresent name value) levels := by
  cases value with
  | none => trivial
  | some value =>
      exact ⟨⟨Solid.solid value, by omega, Faithful.fits_of_le (by omega) value⟩, trivial⟩

/-! ### Values that every document has -/

instance : Faithful Bool where
  levels := 0
  fits _ := trivial
  reads appears := appears

instance : Faithful String where
  levels := 0
  fits _ := trivial
  reads appears := appears

instance : Solid String := ⟨fun _ => trivial⟩

instance : Faithful Float where
  levels := 0
  fits _ := trivial
  reads appears := appears

instance : Solid Float := ⟨fun _ => trivial⟩

instance : Faithful Float32 where
  levels := 0
  fits _ := trivial
  reads appears := appears

theorem natural_fits {value : Nat} (below : value < UInt64.size) :
    (Written.integer value).Fits 0 := by
  have lowest : Int64.minValue.toInt ≤ 0 := by decide
  exact ⟨by omega, by omega⟩

theorem natural?_of_appears {δ : Type} [Source δ] {value : Nat} {document : δ}
    (appears : (Written.integer value).AppearsAs document) :
    Source.natural? document = some value :=
  appears.2 value rfl

instance : Faithful UInt8 where
  levels := 0
  fits value := natural_fits (Nat.lt_of_lt_of_le value.toNat_lt (by decide))
  reads appears := by
    next value document =>
    simp [Stored.read?, natural?_of_appears appears, below?, value.toNat_lt]

instance : Faithful UInt16 where
  levels := 0
  fits value := natural_fits (Nat.lt_of_lt_of_le value.toNat_lt (by decide))
  reads appears := by
    next value document =>
    simp [Stored.read?, natural?_of_appears appears, below?, value.toNat_lt]

instance : Faithful UInt64 where
  levels := 0
  fits value := natural_fits value.toNat_lt
  reads appears := by
    next value document =>
    simp [Stored.read?, natural?_of_appears appears, below?, value.toNat_lt]

instance : Solid UInt64 := ⟨fun _ => trivial⟩

instance : Faithful Int64 where
  levels := 0
  fits value := by
    have most := value.toInt_lt
    exact ⟨value.le_toInt, by change _ < (18446744073709551616 : Int); omega⟩
  reads appears := by
    next value document =>
    have within : Int64.minValue.toInt ≤ value.toInt ∧ value.toInt ≤ Int64.maxValue.toInt :=
      ⟨value.le_toInt, value.toInt_le⟩
    simp only [Stored.read?, appears.1, Option.bind_some, if_pos within, Int64.ofInt_toInt]

theorem itemsFit {α : Type} [Stored α] [Faithful α] (items : List α) :
    Written.ItemsFit (items.map written) (Faithful.levels α) := by
  induction items with
  | nil => trivial
  | cons first rest ih => exact ⟨Faithful.fits first, ih⟩

theorem mapM_read? {δ α : Type} [Source δ] [Stored α] [Faithful α] {items : List α}
    {documents : List δ} (appear : Written.ItemsAppearAs (items.map written) documents) :
    documents.mapM Stored.read? = some items := by
  induction items generalizing documents with
  | nil => cases documents with
    | nil => rfl
    | cons => exact False.elim appear
  | cons first rest ih =>
      cases documents with
      | nil => exact False.elim appear
      | cons document documents =>
          obtain ⟨here, there⟩ := appear
          simp [Faithful.reads here, ih there]

instance {α : Type} [Stored α] [Faithful α] : Faithful (List α) where
  levels := Faithful.levels α + 1
  fits items := ⟨Nat.succ_pos _, itemsFit items⟩
  reads appears := by
    obtain ⟨documents, found, appear⟩ := appears
    simp [Stored.read?, found, mapM_read? appear]

instance {α β : Type} [Stored α] [Stored β] [Faithful α] [Faithful β] : Faithful (α × β) where
  levels := max (Faithful.levels α) (Faithful.levels β) + 1
  fits value :=
    ⟨Nat.succ_pos _, Faithful.fits_of_le (Nat.le_max_left ..) value.1,
      Faithful.fits_of_le (Nat.le_max_right ..) value.2⟩
  reads appears := by
    obtain ⟨one, other, found, first, second⟩ := appears
    simp [Stored.read?, found, Faithful.reads first, Faithful.reads second]

instance {α : Type} [Stored α] [Faithful α] [Solid α] : Faithful (Option α) where
  levels := Faithful.levels α + 1
  fits value :=
    match value with
    | none => trivial
    | some value => ⟨Solid.solid value, Nat.succ_pos _, Faithful.fits value⟩
  reads {_ _ value _} appears := by
    cases value with
    | none =>
        have found : Source.optional? _ = some none := appears
        simp [Stored.read?, found]
    | some value =>
        obtain ⟨inner, found, appears⟩ := appears
        simp [Stored.read?, found, Faithful.reads appears]

/-- A bare variant is read as the first value with its label. -/
theorem bareOf?_of_appears {δ α : Type} [Source δ] {label : α → String} {values : List α}
    {value : α}
    {document : δ} (first : values.find? (fun other => label other == label value) = some value)
    (appears : (Written.bare (label value)).AppearsAs document) :
    bareOf? label values document = some value := by
  simp [bareOf?, appears.1, appears.2, first]

end LightingDesk
