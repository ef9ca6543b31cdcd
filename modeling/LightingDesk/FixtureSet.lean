import LightingDesk.Identifier
/-!
Sets of fixture ids, kept in ascending order of their characters without repetition, so that equal
sets are equal values and have one written form.
-/

namespace LightingDesk

/-- Whether each text stands before the next one. -/
def ascending : List String → Bool
  | [] => true
  | [_] => true
  | first :: second :: rest => decide (first < second) && ascending (second :: rest)

/-- Puts a text in its place in an ascending list, once. -/
def insertAscending (text : String) : List String → List String
  | [] => [text]
  | first :: rest =>
      if text < first then text :: first :: rest
      else if first < text then first :: insertAscending text rest
      else first :: rest

theorem ascending_tail {first : String} {rest : List String}
    (sorted : ascending (first :: rest) = true) : ascending rest = true := by
  cases rest with
  | nil => rfl
  | cons second rest =>
      simp only [ascending, Bool.and_eq_true] at sorted
      exact sorted.2

theorem ascending_insertAscending (text : String) :
    ∀ {list : List String}, ascending list = true → ascending (insertAscending text list) = true
  | [], _ => rfl
  | first :: rest, sorted => by
      unfold insertAscending
      split
      · next before => simp [ascending, before, sorted]
      · split
        · next after =>
            have inner := ascending_insertAscending text (ascending_tail sorted)
            cases rest with
            | nil => simp [insertAscending, ascending, after]
            | cons second rest =>
                simp only [ascending, Bool.and_eq_true, decide_eq_true_eq] at sorted
                unfold insertAscending at inner ⊢
                split
                · next before =>
                    simp only [before, if_true] at inner
                    simp [ascending, after, before] at inner ⊢
                    exact inner
                · next notBefore =>
                    simp only [notBefore, if_false] at inner
                    split
                    · next later =>
                        simp only [later, if_true] at inner
                        simp [ascending, sorted.1, inner]
                    · next notLater =>
                        simp only [notLater, if_false] at inner
                        simp [ascending, sorted.1, inner]
        · exact sorted

structure FixtureSet where
  ids : List FixtureId
  sorted : ascending ids = true := by rfl
deriving DecidableEq

namespace FixtureSet

def empty : FixtureSet := ⟨[], rfl⟩

instance : Inhabited FixtureSet := ⟨empty⟩

def insert (set : FixtureSet) (id : FixtureId) : FixtureSet :=
  ⟨insertAscending id set.ids, ascending_insertAscending id set.sorted⟩

def ofList (ids : List FixtureId) : FixtureSet := ids.foldr (fun id set => set.insert id) empty

def contains (set : FixtureSet) (id : FixtureId) : Bool := set.ids.contains id

def isEmpty (set : FixtureSet) : Bool := set.ids.isEmpty

/-- A set is read back from the list that it is written as. -/
theorem ofList_ids (set : FixtureSet) : ofList set.ids = set := by
  obtain ⟨ids, sorted⟩ := set
  induction ids with
  | nil => rfl
  | cons first rest ih =>
      have inner := ih (ascending_tail sorted)
      simp only [ofList, List.foldr_cons] at inner ⊢
      rw [inner]
      cases rest with
      | nil => rfl
      | cons second rest =>
          simp only [ascending, Bool.and_eq_true, decide_eq_true_eq] at sorted
          simp [insert, insertAscending, sorted.1]

end FixtureSet

end LightingDesk
