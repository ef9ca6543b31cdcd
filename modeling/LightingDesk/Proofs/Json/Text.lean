import LightingDesk.Document.Text
import LightingDesk.Proofs.Document.Faithful
import LightingDesk.Proofs.Json.Print
/-!
Values kept as JSON texts. A value is read back from its text if each of its floating-point numbers
is read back from its own.
-/

namespace LightingDesk

open Stored (written)

namespace Json

/-- What the text of a number of single precision is read as. -/
def ofSingleText (x : Float32) : Json := (parse? (String.ofList (singleText x))).getD .null

/-- What the text of a number of double precision is read as. -/
def ofDoubleText (x : Float) : Json := (parse? (String.ofList (doubleText x))).getD .null

theorem reads_singleText (x : Float32) : Reads (singleText x) (ofSingleText x) := by
  obtain ⟨document, reads⟩ := reads_laidOut .single (Decimal.Parts.ofFloat32 x)
  have parsed : parse? (String.ofList (singleText x)) = some document := parse?_of_reads reads
  rw [ofSingleText, parsed]
  exact reads

theorem reads_doubleText (x : Float) : Reads (doubleText x) (ofDoubleText x) := by
  obtain ⟨document, reads⟩ := reads_laidOut .double (Decimal.Parts.ofFloat x)
  have parsed : parse? (String.ofList (doubleText x)) = some document := parse?_of_reads reads
  rw [ofDoubleText, parsed]
  exact reads

end Json

namespace Written

mutual

theorem legible_toJson : ∀ (value : Written) (levels : Nat), value.Fits levels →
    value.toJson.Legible Json.ofSingleText Json.ofDoubleText
  | boolean _, _, _ | text _, _, _ | absent, _, _ | bare _, _, _ => trivial
  | integer _, _, fits => fits
  | single x, _, _ => by
      unfold toJson singleJson
      split
      · exact Json.reads_singleText x
      · trivial
  | double x, _, _ => by
      unfold toJson doubleJson
      split
      · exact Json.reads_doubleText x
      · trivial
  | present value, _, ⟨_, _, fits⟩ => legible_toJson value _ fits
  | list items, _, ⟨_, fits⟩ => legible_itemsJson items _ fits
  | pair first second, _, ⟨_, one, other⟩ =>
      ⟨legible_toJson first _ one, legible_toJson second _ other, trivial⟩
  | wrapped _ value, _, ⟨_, fits⟩ => legible_toJson value _ fits
  | record _ fields, _, ⟨_, _, fits⟩ => legible_fieldsJson fields _ fits
  | variant _ value, _, ⟨_, _, fits⟩ => ⟨legible_toJson value _ fits, trivial⟩
  | variantRecord _ fields, _, ⟨_, _, _, fits⟩ => ⟨legible_fieldsJson fields _ fits, trivial⟩

theorem legible_itemsJson : ∀ (items : List Written) (levels : Nat), ItemsFit items levels →
    Json.ItemsLegible Json.ofSingleText Json.ofDoubleText (itemsJson items)
  | [], _, _ => trivial
  | item :: rest, levels, ⟨here, there⟩ =>
      ⟨legible_toJson item levels here, legible_itemsJson rest levels there⟩

theorem legible_fieldsJson : ∀ (fields : List (String × Written)) (levels : Nat),
    FieldsFit fields levels →
    Json.MembersLegible Json.ofSingleText Json.ofDoubleText (fieldsJson fields)
  | [], _, _ => trivial
  | (_, value) :: rest, levels, ⟨here, there⟩ =>
      ⟨legible_toJson value levels here, legible_fieldsJson rest levels there⟩

end

end Written

namespace Stored

/-! ### Floating-point numbers

Numbers that are not finite are written as null, and null is read as none. -/

theorem jsonText_single (x : Float32) :
    jsonText x = String.ofList (if x.isFinite then Json.singleText x else Json.nullText) := by
  change (Written.singleJson x).renderPretty = _
  cases finite : x.isFinite <;> rw [Written.singleJson, finite] <;> rfl

theorem jsonText_double (x : Float) :
    jsonText x = String.ofList (if x.isFinite then Json.doubleText x else Json.nullText) := by
  change (Written.doubleJson x).renderPretty = _
  cases finite : x.isFinite <;> rw [Written.doubleJson, finite] <;> rfl

theorem isSingle_ofSingleText {x : Float32} (kept : ofJson? (jsonText x) = some x) :
    (Json.ofSingleText x).IsSingle x := by
  rw [ofJson?, jsonText_single] at kept
  cases finite : x.isFinite with
  | false =>
      rw [finite, if_neg Bool.false_ne_true, Json.parse?_of_reads Json.reads_null] at kept
      cases kept
  | true =>
      rw [finite, if_pos rfl, Json.parse?_of_reads (Json.reads_singleText x)] at kept
      generalize Json.ofSingleText x = document at kept ⊢
      exact ⟨finite, kept⟩

theorem isDouble_ofDoubleText {x : Float} (kept : ofJson? (jsonText x) = some x) :
    (Json.ofDoubleText x).IsDouble x := by
  rw [ofJson?, jsonText_double] at kept
  cases finite : x.isFinite with
  | false =>
      rw [finite, if_neg Bool.false_ne_true, Json.parse?_of_reads Json.reads_null] at kept
      cases kept
  | true =>
      rw [finite, if_pos rfl, Json.parse?_of_reads (Json.reads_doubleText x)] at kept
      generalize Json.ofDoubleText x = document at kept ⊢
      exact ⟨finite, kept⟩

/-! ### Whole values -/

variable {α : Type} [Stored α] [Faithful α]

/-- Read back before any text is made of it: what is left out are numbers that are not finite. -/
theorem read?_toJson (value : α)
    (finite : (written value).AllFloats (fun x => x.isFinite = true) fun x => x.isFinite = true) :
    read? (toJson value) = some value := by
  have appears := (written value).appearsAs_mapFloats _ (Faithful.fits value)
    (finite.imp (fun x finite => ⟨finite, rfl⟩) (fun x finite => ⟨finite, rfl⟩) :
      (written value).StandFor Json.single Json.double)
  rw [Json.mapFloats_self] at appears
  exact Faithful.reads appears

theorem ofJson?_jsonText (value : α)
    (kept : (written value).AllFloats (fun x => ofJson? (jsonText x) = some x)
      fun x => ofJson? (jsonText x) = some x) :
    ofJson? (jsonText value) = some value := by
  have parsed : Json.parse? (jsonText value) = _ := Json.parse?_of_reads
    (Json.reads_pretty (toJson value) 0 ((written value).legible_toJson _ (Faithful.fits value)))
  have appears := (written value).appearsAs_mapFloats _ (Faithful.fits value)
    (kept.imp (fun _ => isSingle_ofSingleText) fun _ => isDouble_ofDoubleText)
  rw [ofJson?, parsed]
  exact Faithful.reads appears

end Stored

end LightingDesk
