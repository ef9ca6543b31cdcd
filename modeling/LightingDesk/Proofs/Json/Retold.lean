import LightingDesk.Proofs.Document.Faithful
import LightingDesk.Proofs.Json.Number
/-!
What values are read as from their own JSON texts. A number need not come back as it was: one that is
not finite is written as null, and the digits of the others are read in double precision. Whatever holds
no numbers comes back as it was.
-/

namespace LightingDesk

open Stored (written)

namespace Written

/-- The document that the JSON text of a value is read as. -/
def retold (value : Written) : Json := value.toJson.mapFloats Json.ofSingleText Json.ofDoubleText

/-- The members of that document for fields of a record. -/
def retoldFields (fields : List (String × Written)) : List (String × Json) :=
  fields.map fun field => (field.1, field.2.retold)

theorem retold_list (items : List Written) : (list items).retold = .array (items.map retold) := by
  have same : Json.mapItems Json.ofSingleText Json.ofDoubleText (itemsJson items) =
      items.map retold := by
    induction items with
    | nil => rfl
    | cons item rest ih => simp [itemsJson, Json.mapItems, ih, retold]
  rw [retold, toJson, Json.mapFloats, same]

theorem retold_record (name : String) (fields : List (String × Written)) :
    (record name fields).retold = .object (retoldFields fields) := by
  have same : Json.mapMembers Json.ofSingleText Json.ofDoubleText (fieldsJson fields) =
      retoldFields fields := by
    induction fields with
    | nil => rfl
    | cons field rest ih =>
        simp only [fieldsJson, Json.mapMembers, ih, retoldFields, List.map_cons, retold]
  rw [retold, toJson, Json.mapFloats, same]

theorem map_fst_retoldFields (fields : List (String × Written)) :
    (retoldFields fields).map Prod.fst = fields.map Prod.fst := by
  simp [retoldFields, Function.comp_def]

theorem lookup_retoldFields (fields : List (String × Written)) (name : String) :
    (retoldFields fields).lookup name = (fields.lookup name).map retold := by
  induction fields with
  | nil => rfl
  | cons field rest ih =>
      rw [retoldFields, List.map_cons, ← retoldFields, List.lookup_cons, List.lookup_cons, ih]
      cases name == field.1 <;> rfl

/-- A row with the fields of a record as they are retold. -/
def IsRetold (fields : List (String × Written)) (row : Row Json) : Prop :=
  row = ⟨retoldFields fields, true⟩

/-- A record gives back the fields that were written into it. -/
theorem exists_row (value : Written) {name : String} {fields : List (String × Written)}
    (shape : value = record name fields) (known : List String)
    (all : fields.map Prod.fst ⊆ known) (distinct : (fields.map Prod.fst).Nodup) :
    ∃ row, Source.record? name known value.retold = some row ∧ IsRetold fields row := by
  refine ⟨_, ?_, rfl⟩
  rw [shape, retold_record]
  rw [← map_fst_retoldFields] at all distinct
  exact Row.ofNamed?_eq all distinct

namespace IsRetold

variable {α : Type} [Stored α] {fields : List (String × Written)} {row : Row Json}

theorem field? (retells : IsRetold fields row) (name : String) :
    row.field? name = (fields.lookup name).map retold := by
  rw [retells, Row.field?, lookup_retoldFields]

theorem required (retells : IsRetold fields row) (name : String) {value : α} {result : Option α}
    (heard : Stored.read? (written value).retold = result)
    (found : fields.lookup name = some (written value)) : row.required name = result := by
  rw [Row.required, retells.field?, found, Option.map_some, Option.bind_some, heard]

theorem defaulted (retells : IsRetold fields row) (name : String) (standard : α) {value : α}
    {result : Option α} (heard : Stored.read? (written value).retold = result)
    (found : fields.lookup name = some (written value)) : row.defaulted name standard = result := by
  rw [Row.defaulted, retells.field?, found, Option.map_some]
  exact heard

theorem optional (retells : IsRetold fields row) (name : String) {value : Option α}
    {result : Option (Option α)} (heard : Stored.read? (written value).retold = result)
    (found : fields.lookup name = some (written value)) : row.optional name = result := by
  rw [Row.optional, retells.field?, found, Option.map_some]
  exact heard

/-- A field that is left out if there is no value is read as a value that may be absent. -/
theorem ifPresent (retells : IsRetold fields row) (name : String) {value : Option α}
    {result : Option (Option α)} (heard : Stored.read? (written value).retold = result)
    (found : fields.lookup name = (Written.ifPresent name value).lookup name) :
    row.defaulted name none = result := by
  cases value with
  | none =>
      rw [Row.defaulted, retells.field?, found]
      exact heard
  | some value =>
      refine retells.defaulted name none heard (found.trans ?_)
      simp [Written.ifPresent, written]

end IsRetold

/-! ### Values without numbers -/

theorem itemsAllFloats_iff {ofSingle : Float32 → Prop} {ofDouble : Float → Prop}
    {items : List Written} : ItemsAllFloats ofSingle ofDouble items ↔
      ∀ item ∈ items, item.AllFloats ofSingle ofDouble := by
  induction items with
  | nil => simp [ItemsAllFloats]
  | cons item rest ih => simp [ItemsAllFloats, ih]

end Written

/-- Types whose values hold no floating-point numbers. -/
class Floatless (α : Type) [Stored α] : Prop where
  floatless : ∀ value : α, (written value).AllFloats (fun _ => False) fun _ => False

theorem Stored.read?_retold {α : Type} [Stored α] [Faithful α] [Floatless α] (value : α) :
    read? (written value).retold = some value :=
  Faithful.reads ((written value).appearsAs_mapFloats _ (Faithful.fits value)
    ((Floatless.floatless value).imp (fun _ => False.elim) fun _ => False.elim))

instance : Floatless Bool := ⟨fun _ => trivial⟩
instance : Floatless String := ⟨fun _ => trivial⟩
instance : Floatless UInt8 := ⟨fun _ => trivial⟩
instance : Floatless UInt16 := ⟨fun _ => trivial⟩
instance : Floatless UInt64 := ⟨fun _ => trivial⟩

instance {α : Type} [Stored α] [Floatless α] : Floatless (List α) where
  floatless items := by
    refine Written.itemsAllFloats_iff.2 fun item member => ?_
    obtain ⟨value, -, rfl⟩ := List.mem_map.1 member
    exact Floatless.floatless value

instance {α : Type} [Stored α] [Floatless α] : Floatless (Option α) where
  floatless value := by
    cases value with
    | none => trivial
    | some value => exact Floatless.floatless (α := α) value

instance {α β : Type} [Stored α] [Stored β] [Floatless α] [Floatless β] : Floatless (α × β) :=
  ⟨fun value => ⟨Floatless.floatless value.1, Floatless.floatless value.2⟩⟩

/-! ### Values with numbers -/

/-- Types that say what their values are read as from their own JSON texts. -/
class Retold (α : Type) [Stored α] where
  reread? : α → Option α
  read?_retold : ∀ value : α, Stored.read? (written value).retold = reread? value

namespace Retold

theorem ofJson?_jsonText {α : Type} [Stored α] [Faithful α] [Retold α] (value : α) :
    Stored.ofJson? (Stored.jsonText value) = reread? value := by
  have parsed : Json.parse? (Stored.jsonText value) = some (written value).retold :=
    Json.parse?_of_reads (Json.reads_pretty (Stored.toJson value) 0
      ((written value).legible_toJson _ (Faithful.fits value)))
  rw [Stored.ofJson?, parsed, ← read?_retold]
  rfl

instance : Retold Float32 where
  reread? x := if x.isFinite then (Json.ofSingleText x).single? else none
  read?_retold x := by
    cases finite : x.isFinite <;>
      simp [written, Written.retold, Written.toJson, Written.singleJson, finite, Json.mapFloats,
        Stored.read?, Source.single?, Json.single?]

instance : Retold Float where
  reread? x := if x.isFinite then (Json.ofDoubleText x).double? else none
  read?_retold x := by
    cases finite : x.isFinite <;>
      simp [written, Written.retold, Written.toJson, Written.doubleJson, finite, Json.mapFloats,
        Stored.read?, Source.double?, Json.double?]

theorem isSome_reread?_single (x : Float32) : (reread? x).isSome = x.isFinite := by
  cases finite : x.isFinite with
  | false => simp [reread?, finite]
  | true => simp [reread?, finite, Json.isSome_single? finite]

theorem isSome_reread?_double (x : Float) : (reread? x).isSome = x.isFinite := by
  cases finite : x.isFinite with
  | false => simp [reread?, finite]
  | true => simp [reread?, finite, Json.isSome_double? finite]

theorem reread?_of_isShort {x : Float} (short : Json.IsShort x) : reread? x = some x := by
  simp [reread?, short.isFinite, short.double?]

/-- A number that is not finite is taken for an absent one. -/
instance : Retold (Option Float) where
  reread? value := some (value.bind reread?)
  read?_retold value := by
    cases value with
    | none => rfl
    | some x =>
        change (Source.optional? (written x).retold).bind _ = some (reread? x)
        cases finite : x.isFinite with
        | false =>
            simp only [written, Written.retold, Written.toJson, Written.doubleJson, finite,
              Bool.false_eq_true, if_false, Json.mapFloats, reread?]
            rfl
        | true =>
            obtain ⟨literal, text, -⟩ := Json.exists_ofDoubleText finite
            have shows : (written x).retold ≠ .null := by
              simp [written, Written.retold, Written.toJson, Written.doubleJson, finite,
                Json.mapFloats, text]
            obtain ⟨y, read⟩ := Option.isSome_iff_exists.1 ((isSome_reread?_double x).trans finite)
            rw [Written.optional?_of_ne_null shows]
            change (Stored.read? (written x).retold).bind _ = _
            rw [read?_retold x, read]
            rfl

instance {α : Type} [Stored α] [Retold α] : Retold (List α) where
  reread? items := items.mapM reread?
  read?_retold items := by
    change Stored.read? (Written.list (items.map written)).retold = _
    rw [Written.retold_list]
    change ((items.map written).map Written.retold).mapM Stored.read? = _
    rw [List.map_map, List.mapM_map]
    congr 1
    funext value
    exact read?_retold value

theorem isSome_reread?_list {α : Type} [Stored α] [Retold α] (items : List α) :
    (reread? items).isSome = items.all fun value => (reread? value).isSome := by
  change (items.mapM reread?).isSome = _
  induction items with
  | nil => rfl
  | cons value rest ih =>
      rw [List.mapM_cons, List.all_cons, ← ih]
      cases reread? value with
      | none => rfl
      | some other => cases rest.mapM reread? <;> rfl

/-- What is collected from the items stays the same if it does for each of them. -/
theorem flatMap_reread? {α β : Type} [Stored α] [Retold α] {items others : List α}
    (heard : reread? items = some others) {collect : α → List β}
    (same : ∀ item ∈ items, ∀ other, reread? item = some other → collect other = collect item) :
    others.flatMap collect = items.flatMap collect := by
  change items.mapM reread? = some others at heard
  induction items generalizing others with
  | nil =>
      cases heard
      rfl
  | cons item rest ih =>
      rw [List.mapM_cons] at heard
      obtain ⟨other, first, heard⟩ := Option.bind_eq_some_iff.1 heard
      obtain ⟨more, behind, whole⟩ := Option.bind_eq_some_iff.1 heard
      cases whole
      rw [List.flatMap_cons, List.flatMap_cons, same item List.mem_cons_self other first,
        ih (fun item member => same item (List.mem_cons_of_mem _ member)) behind]

end Retold

end LightingDesk
