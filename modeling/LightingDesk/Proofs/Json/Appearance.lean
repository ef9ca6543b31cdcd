import LightingDesk.Json.Source
import LightingDesk.Proofs.Document.Appearance
/-!
JSON documents show what they are made from, also when each floating-point number has been replaced
by another document that is read as the same number.
-/

namespace LightingDesk

namespace Json

mutual

/-- A document with other documents in the places of its floating-point numbers. -/
def mapFloats (ofSingle : Float32 → Json) (ofDouble : Float → Json) : Json → Json
  | null => null
  | boolean value => boolean value
  | integer value => integer value
  | decimal literal => decimal literal
  | single value => ofSingle value
  | double value => ofDouble value
  | text value => text value
  | array items => array (mapItems ofSingle ofDouble items)
  | object members => object (mapMembers ofSingle ofDouble members)
  | unreadable => unreadable

def mapItems (ofSingle : Float32 → Json) (ofDouble : Float → Json) : List Json → List Json
  | [] => []
  | item :: rest => item.mapFloats ofSingle ofDouble :: mapItems ofSingle ofDouble rest

def mapMembers (ofSingle : Float32 → Json) (ofDouble : Float → Json) :
    List (String × Json) → List (String × Json)
  | [] => []
  | (name, value) :: rest =>
      (name, value.mapFloats ofSingle ofDouble) :: mapMembers ofSingle ofDouble rest

end

mutual

theorem mapFloats_self : ∀ document : Json, document.mapFloats single double = document
  | null | boolean _ | integer _ | decimal _ | single _ | double _ | text _ | unreadable => by
      simp [mapFloats]
  | array items => by simp [mapFloats, mapItems_self items]
  | object members => by simp [mapFloats, mapMembers_self members]

theorem mapItems_self : ∀ items : List Json, mapItems single double items = items
  | [] => rfl
  | item :: rest => by simp [mapItems, mapFloats_self item, mapItems_self rest]

theorem mapMembers_self : ∀ members : List (String × Json),
    mapMembers single double members = members
  | [] => rfl
  | (_, value) :: rest => by simp [mapMembers, mapFloats_self value, mapMembers_self rest]

end

theorem map_fst_mapMembers (ofSingle : Float32 → Json) (ofDouble : Float → Json) :
    ∀ fields : List (String × Written),
      (mapMembers ofSingle ofDouble (Written.fieldsJson fields)).map Prod.fst =
        fields.map Prod.fst
  | [] => rfl
  | (_, _) :: rest => by
      simp [Written.fieldsJson, mapMembers, map_fst_mapMembers ofSingle ofDouble rest]

/-- A document that is read as a finite number of single precision. -/
def IsSingle (document : Json) (x : Float32) : Prop :=
  x.isFinite = true ∧ document.single? = some x

/-- A document that is read as a finite number of double precision. -/
def IsDouble (document : Json) (x : Float) : Prop :=
  x.isFinite = true ∧ document.double? = some x

end Json

namespace Written

section Floats

variable {ofSingle : Float32 → Json} {ofDouble : Float → Json}

/-- The floating-point numbers of a value that other documents stand for. -/
def StandFor (ofSingle : Float32 → Json) (ofDouble : Float → Json) : Written → Prop :=
  AllFloats (fun x => (ofSingle x).IsSingle x) (fun x => (ofDouble x).IsDouble x)

theorem mapFloats_ne_null (value : Written) (solid : value.IsSolid)
    (stand : value.StandFor ofSingle ofDouble) :
    value.toJson.mapFloats ofSingle ofDouble ≠ .null := by
  cases value with
  | absent | present | wrapped => exact False.elim solid
  | single x =>
      intro isNull
      obtain ⟨finite, reads⟩ := stand
      simp only [toJson, singleJson, finite, if_true, Json.mapFloats] at isNull
      simp [isNull, Json.single?] at reads
  | double x =>
      intro isNull
      obtain ⟨finite, reads⟩ := stand
      simp only [toJson, doubleJson, finite, if_true, Json.mapFloats] at isNull
      simp [isNull, Json.double?] at reads
  | boolean | integer | text | list | pair | record | bare | variant | variantRecord =>
      simp [toJson, Json.mapFloats]

theorem optional?_of_ne_null {document : Json} (shows : document ≠ .null) :
    Source.optional? document = some (some document) := by
  cases document with
  | null => exact absurd rfl shows
  | _ => rfl

mutual

theorem appearsAs_mapFloats : ∀ (value : Written) (levels : Nat), value.Fits levels →
    value.StandFor ofSingle ofDouble →
      value.AppearsAs (value.toJson.mapFloats ofSingle ofDouble)
  | boolean _, _, _, _ | text _, _, _, _ | absent, _, _, _ => by
      simp [AppearsAs, toJson, Json.mapFloats, Source.boolean?, Source.text?, Source.optional?,
        Json.boolean?, Json.text?, Json.optional?]
  | integer value, _, _, _ => by
      refine ⟨rfl, fun natural same => ?_⟩
      subst same
      simp [toJson, Json.mapFloats, Source.natural?, Json.natural?]
  | single x, _, _, ⟨finite, reads⟩ => by
      simpa [AppearsAs, toJson, singleJson, finite, Json.mapFloats, Source.single?] using reads
  | double x, _, _, ⟨finite, reads⟩ => by
      simpa [AppearsAs, toJson, doubleJson, finite, Json.mapFloats, Source.double?] using reads
  | present value, _, ⟨solid, _, fits⟩, stand =>
      ⟨_, optional?_of_ne_null (mapFloats_ne_null value solid stand),
        appearsAs_mapFloats value _ fits stand⟩
  | list items, _, ⟨_, fits⟩, stand => ⟨_, rfl, itemsAppearAs_mapItems items _ fits stand⟩
  | pair first second, _, ⟨_, one, other⟩, stand =>
      ⟨_, _, rfl, appearsAs_mapFloats first _ one stand.1,
        appearsAs_mapFloats second _ other stand.2⟩
  | wrapped _ value, _, ⟨_, fits⟩, stand => ⟨_, rfl, appearsAs_mapFloats value _ fits stand⟩
  | record _ fields, _, ⟨names, _, fits⟩, stand => by
      intro known all
      rw [← Json.map_fst_mapMembers ofSingle ofDouble] at all names
      exact ⟨_, Row.ofNamed?_eq all (areFields_nodup names), rfl,
        fieldsAppearAs_mapMembers fields _ fits stand⟩
  | bare _, _, _, _ => ⟨rfl, rfl⟩
  | variant _ value, _, ⟨_, _, fits⟩, stand =>
      ⟨rfl, _, rfl, appearsAs_mapFloats value _ fits stand⟩
  | variantRecord _ fields, _, ⟨_, names, _, fits⟩, stand => by
      refine ⟨rfl, fun known all => ?_⟩
      rw [← Json.map_fst_mapMembers ofSingle ofDouble] at all names
      exact ⟨_, Row.ofNamed?_eq all (areFields_nodup names), rfl,
        fieldsAppearAs_mapMembers fields _ fits stand⟩

theorem itemsAppearAs_mapItems : ∀ (items : List Written) (levels : Nat), ItemsFit items levels →
    ItemsAllFloats (fun x => (ofSingle x).IsSingle x) (fun x => (ofDouble x).IsDouble x) items →
      ItemsAppearAs items (Json.mapItems ofSingle ofDouble (itemsJson items))
  | [], _, _, _ => trivial
  | item :: rest, levels, ⟨here, there⟩, stand =>
      ⟨appearsAs_mapFloats item levels here stand.1,
        itemsAppearAs_mapItems rest levels there stand.2⟩

theorem fieldsAppearAs_mapMembers : ∀ (fields : List (String × Written)) (levels : Nat),
    FieldsFit fields levels →
    FieldsAllFloats (fun x => (ofSingle x).IsSingle x) (fun x => (ofDouble x).IsDouble x) fields →
      FieldsAppearAs fields (Json.mapMembers ofSingle ofDouble (fieldsJson fields))
  | [], _, _, _ => trivial
  | (_, value) :: rest, levels, ⟨here, there⟩, stand =>
      ⟨rfl, appearsAs_mapFloats value levels here stand.1,
        fieldsAppearAs_mapMembers rest levels there stand.2⟩

end

end Floats

end Written

end LightingDesk
