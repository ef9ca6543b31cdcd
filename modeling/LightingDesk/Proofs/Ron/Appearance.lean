import LightingDesk.Proofs.Decimal.Layout
import LightingDesk.Proofs.Document.Appearance
import LightingDesk.Ron.Print
import LightingDesk.Ron.Source
/-!
RON documents show what they are made from, if each floating-point number is read from its own
characters.
-/

namespace LightingDesk

namespace Written

/-- A name in RON; one with hyphens is raw. -/
def ronName (name : String) : Ron.Name := ⟨name, name.toList.contains '-'⟩

mutual

/-- The RON value that is written for a value. -/
def toRon : Written → Ron
  | boolean value => .boolean value
  | integer value => .number (toString value).toList
  | single value => .number ((Decimal.Parts.ofFloat32 value).plain true)
  | double value => .number ((Decimal.Parts.ofFloat value).plain true)
  | text value => .text value
  | absent => .absent
  | present value => .present value.toRon
  | list items => .list (itemsRon items)
  | pair first second => .group none [first.toRon, second.toRon]
  | wrapped _ value => .group none [value.toRon]
  | record _ fields => .fields none (fieldsRon fields)
  | bare name => .bare (ronName name)
  | variant name value => .group (some (ronName name)) [value.toRon]
  | variantRecord name fields => .fields (some (ronName name)) (fieldsRon fields)

def itemsRon : List Written → List Ron
  | [] => []
  | item :: rest => item.toRon :: itemsRon rest

def fieldsRon : List (String × Written) → List (String × Ron)
  | [] => []
  | (name, value) :: rest => (name, value.toRon) :: fieldsRon rest

end

theorem map_fst_fieldsRon : ∀ fields : List (String × Written),
    (fieldsRon fields).map Prod.fst = fields.map Prod.fst
  | [] => rfl
  | (_, _) :: rest => by simp [fieldsRon, map_fst_fieldsRon rest]

/-- The number of single precision that is read from the characters that it is written with. -/
def IsRonSingle (x : Float32) : Prop :=
  (Ron.readingOf? ((Decimal.Parts.ofFloat32 x).plain true)).map Decimal.Reading.toFloat32 = some x

/-- The number of double precision that is read from the characters that it is written with. -/
def IsRonDouble (x : Float) : Prop :=
  (Ron.readingOf? ((Decimal.Parts.ofFloat x).plain true)).map Decimal.Reading.toFloat = some x

theorem digitsValue?_digitText (value : Nat) :
    Ron.digitsValue? 10 (Decimal.digitText value) = some value := by
  have digits := Decimal.areDigits_digitText value
  have nonempty : (Decimal.digitText value).isEmpty = false :=
    List.isEmpty_eq_false_iff.2 Nat.toDigits_ne_nil
  have noLine : ∀ c ∈ Decimal.digitText value, c ≠ '_' := fun c member same => by
    have digit := digits c member
    rw [same] at digit
    cases digit
  have starts : ((Decimal.digitText value).head? == some '_') = false := by
    cases shape : Decimal.digitText value with
    | nil => rfl
    | cons c rest =>
        have other := noLine c (shape ▸ List.mem_cons_self)
        simpa using other
  have all : (Decimal.digitText value).all Ron.isDigitOrLine = true := by
    rw [List.all_eq_true]
    exact fun c member => by simp [Ron.isDigitOrLine, digits c member]
  have kept : (Decimal.digitText value).filter (fun c => c != '_') = Decimal.digitText value :=
    List.filter_eq_self.2 fun c member => by simpa using noLine c member
  have values : (Decimal.digitText value).map Ron.digitValue =
      (Decimal.digitText value).map Decimal.digitOf :=
    List.map_congr_left fun c member => by
      rw [Ron.digitValue, if_pos (digits c member), Decimal.digitOf]
  have small : (((Decimal.digitText value).map Decimal.digitOf).all fun digit =>
      decide (digit < 10)) = true := by
    simp only [List.all_eq_true, List.mem_map, decide_eq_true_eq]
    rintro _ ⟨c, member, rfl⟩
    have bounds := Decimal.le_toNat_of_isDigit (digits c member)
    rw [Decimal.digitOf]
    omega
  simp only [Ron.digitsValue?, nonempty, starts, all, kept, values, small, Bool.not_true,
    Bool.or_self, Bool.false_eq_true, if_false, if_true]
  exact congrArg some (Decimal.valueOfDigits_digitText value)

/-- Digits are read to the base ten: no second one is the letter that another base has. -/
theorem naturalOf?_digitText (value : Nat) :
    Ron.naturalOf? (Decimal.digitText value) = some value := by
  have digits := Decimal.areDigits_digitText value
  rw [← digitsValue?_digitText value]
  unfold Ron.naturalOf?
  split
  · next shape => exact absurd (digits 'x' (by simp [shape])) (by decide)
  · next shape => exact absurd (digits 'b' (by simp [shape])) (by decide)
  · next shape => exact absurd (digits 'o' (by simp [shape])) (by decide)
  · rfl

theorem integerOf?_toString (value : Int) :
    Ron.integerOf? (toString value).toList = some value := by
  have digits := Decimal.areDigits_digitText value.natAbs
  rw [Decimal.toList_toString]
  by_cases negative : value < 0
  · have size : -(value.natAbs : Int) = value := by omega
    simp only [Decimal.sign, negative, decide_true, if_true, List.singleton_append,
      Ron.integerOf?, naturalOf?_digitText]
    exact congrArg some size
  · have size : (value.natAbs : Int) = value := by omega
    simp only [Decimal.sign, negative, decide_false, Bool.false_eq_true, if_false,
      List.nil_append]
    unfold Ron.integerOf?
    split
    · next shape => exact absurd (digits '-' (by simp [shape])) (by decide)
    · next shape => exact absurd (digits '+' (by simp [shape])) (by decide)
    · rw [naturalOf?_digitText, Option.map_some]
      exact congrArg some size

/-- A document without extensions that shows a value. -/
def ronDocument (room : Nat) (value : Written) : Ron.Document :=
  ⟨.none, room, value.toRon, false⟩

theorem row?_fieldsRon {known : List String} {fields : List (String × Written)}
    (all : fields.map Prod.fst ⊆ known) (names : areFields (fields.map Prod.fst) = true)
    (document : Ron.Document) (levels : Nat) :
    document.row? known levels (fieldsRon fields) =
      some ⟨(fieldsRon fields).map fun entry => (entry.1, document.inner levels entry.2),
        true⟩ := by
  have known? : (fieldsRon fields).all (fun entry => known.contains entry.1 ||
      entry.2.isReadable document.extensions (document.levels - levels)) = true := by
    rw [List.all_eq_true]
    intro entry member
    have found : entry.1 ∈ known := all (map_fst_fieldsRon fields ▸ List.mem_map_of_mem member)
    simp [found]
  have same : ((fieldsRon fields).map fun entry =>
      (entry.1, document.inner levels entry.2)).map Prod.fst = fields.map Prod.fst := by
    rw [List.map_map, ← map_fst_fieldsRon]
    rfl
  rw [Ron.Document.row?, if_pos known?]
  exact Row.ofNamed?_eq (same ▸ all) (same ▸ areFields_nodup names)

mutual

theorem appearsAs_ronDocument : ∀ (value : Written) (levels room : Nat), value.Fits levels →
    value.AllFloats IsRonSingle IsRonDouble → value.AppearsAs (value.ronDocument room)
  | boolean _, _, _, _, _ | text _, _, _, _, _ | absent, _, _, _, _ => rfl
  | integer value, _, _, _, _ => by
      refine ⟨integerOf?_toString value, fun natural same => ?_⟩
      subst same
      have read : Ron.naturalOf? (toString (natural : Int)).toList = some natural := by
        rw [Decimal.toList_toString_natCast, naturalOf?_digitText]
      exact read
  | single x, _, _, _, reads => reads
  | double x, _, _, _, reads => reads
  | present value, _, room, ⟨_, _, fits⟩, reads =>
      ⟨_, rfl, appearsAs_ronDocument value _ (room - 1) fits reads⟩
  | list items, _, room, ⟨_, fits⟩, reads =>
      ⟨_, rfl, itemsAppearAs_ronDocument items _ (room - 2) fits reads⟩
  | pair first second, _, room, ⟨_, one, other⟩, reads =>
      ⟨_, _, rfl, appearsAs_ronDocument first _ (room - 2) one reads.1,
        appearsAs_ronDocument second _ (room - 2) other reads.2⟩
  | wrapped _ value, _, room, ⟨_, fits⟩, reads =>
      ⟨_, rfl, appearsAs_ronDocument value _ (room - 1) fits reads⟩
  | record _ fields, _, room, ⟨names, _, fits⟩, reads => fun known all =>
      ⟨_, row?_fieldsRon all names _ 2, rfl,
        fieldsAppearAs_ronDocument fields _ (room - 2) fits reads⟩
  | bare _, _, _, _, _ => ⟨rfl, rfl⟩
  | variant _ value, _, room, ⟨_, _, fits⟩, reads =>
      ⟨rfl, _, rfl, appearsAs_ronDocument value _ (room - 2) fits reads⟩
  | variantRecord _ fields, _, room, ⟨_, names, _, fits⟩, reads =>
      ⟨rfl, fun known all => ⟨_, row?_fieldsRon all names _ 3, rfl,
        fieldsAppearAs_ronDocument fields _ (room - 3) fits reads⟩⟩

theorem itemsAppearAs_ronDocument : ∀ (items : List Written) (levels room : Nat),
    ItemsFit items levels → ItemsAllFloats IsRonSingle IsRonDouble items →
      ItemsAppearAs items ((itemsRon items).map fun item =>
        (⟨.none, room, item, false⟩ : Ron.Document))
  | [], _, _, _, _ => trivial
  | item :: rest, levels, room, ⟨here, there⟩, reads =>
      ⟨appearsAs_ronDocument item levels room here reads.1,
        itemsAppearAs_ronDocument rest levels room there reads.2⟩

theorem fieldsAppearAs_ronDocument : ∀ (fields : List (String × Written)) (levels room : Nat),
    FieldsFit fields levels → FieldsAllFloats IsRonSingle IsRonDouble fields →
      FieldsAppearAs fields ((fieldsRon fields).map fun entry =>
        (entry.1, (⟨.none, room, entry.2, false⟩ : Ron.Document)))
  | [], _, _, _, _ => trivial
  | (_, value) :: rest, levels, room, ⟨here, there⟩, reads =>
      ⟨rfl, appearsAs_ronDocument value levels room here reads.1,
        fieldsAppearAs_ronDocument rest levels room there reads.2⟩

end

end Written

end LightingDesk
