import LightingDesk.Graph.Search
import Mathlib.Data.Finset.Card
import Mathlib.Logic.Relation

/-!
The depth-first search comes to all that paths lead to, and to nothing else: `Digraph.mem_reached_iff`.
So components are what they are called, and every loop of the graph shows in one of those that are
listed: `Digraph.exists_loop_of_cycle`.
-/

namespace LightingDesk.Graph

open Relation

namespace Search

variable {successors : Nat → List Nat}

/-- The vertices below `size` that the search has not come to. -/
def unseen (size : Nat) (search : Search) : Finset Nat :=
  (Finset.range size).filter (· ∉ search.visited)

/-- The search with one more vertex that it has come to. -/
def reach (search : Search) (vertex : Nat) : Search :=
  { search with visited := vertex :: search.visited }

theorem card_unseen_reach {size vertex : Nat} {search : Search} (within : vertex < size)
    (fresh : vertex ∉ search.visited) :
    ((search.reach vertex).unseen size).card < (search.unseen size).card := by
  apply Finset.card_lt_card
  rw [Finset.ssubset_iff_of_subset]
  · exact ⟨vertex, by simp [unseen, within, fresh], by simp [unseen, reach]⟩
  · intro other
    simp only [unseen, reach, Finset.mem_filter, List.mem_cons, not_or]
    rintro ⟨below, -, missing⟩
    exact ⟨below, missing⟩

/-- A visit keeps what the search has come to and has finished. -/
theorem visit_grows (successors : Nat → List Nat) (depth : Nat) (vertices : List Nat) (search : Search) :
    search.visited ⊆ (visit successors depth vertices search).visited ∧
      search.finished ⊆ (visit successors depth vertices search).finished := by
  fun_induction visit successors depth vertices search with
  | case1 => exact ⟨List.Subset.refl _, List.Subset.refl _⟩
  | case2 => exact ⟨List.Subset.refl _, List.Subset.refl _⟩
  | case3 _ _ _ _ _ ih => exact ih
  | case4 depth vertex rest search fresh inner inside after =>
    exact ⟨List.Subset.trans (List.subset_cons_self ..) (List.Subset.trans inside.1 after.1),
      List.Subset.trans inside.2 (List.Subset.trans (List.subset_append_left ..) after.2)⟩

/-- What holds of the first vertices and is handed on along edges holds wherever a visit comes. -/
theorem visit_invariant {P : Nat → Prop}
    (onward : ∀ vertex, P vertex → ∀ next ∈ successors vertex, P next) {depth : Nat}
    {vertices : List Nat} {search : Search} (first : ∀ vertex ∈ vertices, P vertex)
    (known : ∀ vertex ∈ search.visited, P vertex) :
    ∀ vertex ∈ (visit successors depth vertices search).visited, P vertex := by
  fun_induction visit successors depth vertices search with
  | case1 => exact known
  | case2 => exact known
  | case3 _ _ _ _ _ ih => exact ih (fun vertex member => first vertex (.tail _ member)) known
  | case4 depth vertex rest search fresh inner inside after =>
    have here := first vertex List.mem_cons_self
    refine after (fun vertex member => first vertex (.tail _ member)) ?_
    exact inside (onward vertex here) (List.forall_mem_cons.2 ⟨here, known⟩)

/-- A visit is done with every vertex that it comes to. -/
theorem visit_finished {depth : Nat} {vertices : List Nat} {search : Search} {vertex : Nat}
    (reached : vertex ∈ (visit successors depth vertices search).visited) :
    vertex ∈ search.visited ∨ vertex ∈ (visit successors depth vertices search).finished := by
  fun_induction visit successors depth vertices search with
  | case1 => exact .inl reached
  | case2 => exact .inl reached
  | case3 _ _ _ _ _ ih => exact ih reached
  | case4 depth first rest search fresh inner inside after =>
    have kept := (visit_grows successors (depth + 1) rest
      { inner with finished := inner.finished ++ [first] }).2
    rcases after reached with earlier | done
    · rcases inside earlier with earlier | done
      · rcases List.mem_cons.1 earlier with rfl | earlier
        · exact .inr (kept (List.mem_append_right _ List.mem_cons_self))
        · exact .inl earlier
      · exact .inr (kept (List.mem_append_left _ done))
    · exact .inr done

/-- With levels for all vertices that are left, a visit comes to its vertices and from each new one on
to all successors. -/
theorem visit_complete {size : Nat}
    (bounded : ∀ vertex, ∀ next ∈ successors vertex, next < size) {depth : Nat} {vertices : List Nat}
    {search : Search} (within : ∀ vertex ∈ vertices, vertex < size)
    (deep : (search.unseen size).card < depth) :
    (∀ vertex ∈ vertices, vertex ∈ (visit successors depth vertices search).visited) ∧
      ∀ vertex ∈ (visit successors depth vertices search).visited, vertex ∈ search.visited ∨
        ∀ next ∈ successors vertex, next ∈ (visit successors depth vertices search).visited := by
  fun_induction visit successors depth vertices search with
  | case1 => exact absurd deep (Nat.not_lt_zero _)
  | case2 => exact ⟨by simp, fun vertex member => .inl member⟩
  | case3 depth vertex rest search seen ih =>
    obtain ⟨all, closed⟩ := ih (fun vertex member => within vertex (.tail _ member)) deep
    refine ⟨List.forall_mem_cons.2 ⟨?_, all⟩, closed⟩
    exact (visit_grows successors (depth + 1) rest search).1 (by simpa using seen)
  | case4 depth vertex rest search fresh inner inside after =>
    have below := within vertex List.mem_cons_self
    have fewer := card_unseen_reach below (by simpa using fresh)
    obtain ⟨successorsSeen, innerClosed⟩ := inside (bounded vertex) (by
      rw [reach] at fewer
      omega)
    have grown := (visit_grows successors depth (successors vertex)
      { search with visited := vertex :: search.visited }).1
    have later := (visit_grows successors (depth + 1) rest
      { inner with finished := inner.finished ++ [vertex] }).1
    have room : (unseen size { inner with finished := inner.finished ++ [vertex] }).card <
        depth + 1 := by
      refine Nat.lt_of_le_of_lt (Finset.card_le_card ?_) deep
      intro other
      simp only [unseen, Finset.mem_filter]
      exact fun ⟨below, missing⟩ => ⟨below, fun seen => missing (grown (.tail _ seen))⟩
    obtain ⟨all, closed⟩ := after (fun vertex member => within vertex (.tail _ member)) room
    refine ⟨List.forall_mem_cons.2 ⟨later (grown List.mem_cons_self), all⟩, ?_⟩
    intro other reached
    rcases closed other reached with known | onward
    · rcases innerClosed other known with known | onward
      · rcases List.mem_cons.1 known with rfl | known
        · exact .inr fun next member => later (successorsSeen next member)
        · exact .inl known
      · exact .inr fun next member => later (onward next member)
    · exact .inr onward

end Search

namespace Digraph

/-- There is an edge from one vertex to another. -/
def Edge (graph : Digraph) (source target : Nat) : Prop := (source, target) ∈ graph.edges

/-- Edges run between vertices of the graph. -/
def Sound (graph : Digraph) : Prop := ∀ edge ∈ graph.edges, edge.1 < graph.size ∧ edge.2 < graph.size

variable {graph : Digraph} {vertex other : Nat}

theorem mem_successors : other ∈ graph.successors vertex ↔ graph.Edge vertex other := by
  simp [successors, Edge]

theorem Sound.successors_lt (sound : graph.Sound) (vertex : Nat) :
    ∀ next ∈ graph.successors vertex, next < graph.size :=
  fun _ member => (sound _ (mem_successors.1 member)).2

theorem Sound.lt_of_path (sound : graph.Sound) (within : vertex < graph.size)
    (path : ReflTransGen graph.Edge vertex other) : other < graph.size := by
  rcases path.cases_tail with rfl | ⟨before, -, edge⟩
  · exact within
  · exact (sound _ edge).2

theorem card_unseen_start (size : Nat) : (Search.start.unseen size).card < size + 1 := by
  simp [Search.unseen, Search.start]

/-- A search from a vertex comes to what paths from it lead to. -/
theorem mem_reached_iff (sound : graph.Sound) (within : vertex < graph.size) :
    other ∈ graph.reached vertex ↔ ReflTransGen graph.Edge vertex other := by
  obtain ⟨seen, closed⟩ := Search.visit_complete sound.successors_lt
    (show ∀ first ∈ [vertex], first < graph.size by simpa using within) (card_unseen_start graph.size)
  constructor
  · refine Search.visit_invariant (P := ReflTransGen graph.Edge vertex) ?_ ?_ ?_ other
    · exact fun before path next member => path.tail (mem_successors.1 member)
    · simp [ReflTransGen.refl]
    · simp [Search.start]
  · intro path
    induction path with
    | refl => exact seen vertex List.mem_cons_self
    | tail before edge ih =>
      have onward := (closed _ ih).resolve_left (by simp [Search.start])
      exact onward _ (mem_successors.2 edge)

/-- A search from all vertices is done with each of them in the end. -/
theorem mem_finishing (sound : graph.Sound) (within : vertex < graph.size) :
    vertex ∈ graph.finishing := by
  obtain ⟨seen, -⟩ := Search.visit_complete sound.successors_lt
    (show ∀ first ∈ List.range graph.size, first < graph.size by simp) (card_unseen_start graph.size)
  exact (Search.visit_finished (seen vertex (by simpa using within))).resolve_left
    (by simp [Search.start])

/-! ### Components -/

/-- Each of two vertices can be reached from the other. -/
def Mutual (graph : Digraph) (vertex other : Nat) : Prop :=
  ReflTransGen graph.Edge vertex other ∧ ReflTransGen graph.Edge other vertex

theorem Mutual.trans {third : Nat} (first : graph.Mutual vertex other)
    (second : graph.Mutual other third) : graph.Mutual vertex third :=
  ⟨first.1.trans second.1, second.2.trans first.2⟩

theorem mem_component_iff (sound : graph.Sound) (within : vertex < graph.size) :
    other ∈ graph.component vertex ↔ graph.Mutual vertex other := by
  simp only [component, List.mem_filter, List.mem_range, Bool.and_eq_true, List.contains_iff_mem]
  constructor
  · rintro ⟨below, onward, back⟩
    exact ⟨(mem_reached_iff sound within).1 onward, (mem_reached_iff sound below).1 back⟩
  · rintro ⟨onward, back⟩
    have below := sound.lt_of_path within onward
    exact ⟨below, (mem_reached_iff sound within).2 onward, (mem_reached_iff sound below).2 back⟩

theorem lt_of_mem_components {component : List Nat} (listed : component ∈ graph.components)
    (member : vertex ∈ component) : vertex < graph.size := by
  unfold components at listed
  generalize graph.finishing = order at listed
  induction order with
  | nil => cases listed
  | cons first later ih =>
    unfold components.collect at listed
    split at listed
    next => exact ih listed
    next =>
      rcases List.mem_cons.1 listed with rfl | listed
      · exact List.mem_range.1 (List.mem_filter.1 member).1
      · exact ih listed

/-- The component of every vertex is listed, for one of the vertices in it. -/
theorem exists_collected (sound : graph.Sound) (within : vertex < graph.size) {order : List Nat}
    (listed : vertex ∈ order) : ∃ leader < graph.size, graph.Mutual leader vertex ∧
      graph.component leader ∈ components.collect graph order := by
  induction order generalizing vertex with
  | nil => cases listed
  | cons first later ih =>
    unfold components.collect
    rcases List.mem_cons.1 listed with rfl | behind
    · split
      next postponed =>
        obtain ⟨other, same, behind⟩ : ∃ other ∈ graph.component vertex, other ∈ later := by
          simpa using postponed
        obtain ⟨onward, back⟩ := (mem_component_iff sound within).1 same
        obtain ⟨leader, below, leads, collected⟩ := ih (sound.lt_of_path within onward) behind
        exact ⟨leader, below, leads.trans ⟨back, onward⟩, collected⟩
      next => exact ⟨vertex, within, ⟨.refl, .refl⟩, List.mem_cons_self⟩
    · obtain ⟨leader, below, leads, collected⟩ := ih within behind
      refine ⟨leader, below, leads, ?_⟩
      split
      next => exact collected
      next => exact .tail _ collected

/-- A vertex that can be left and come to again lies in a component that is listed and loops. -/
theorem exists_loop_of_cycle (sound : graph.Sound) (cycle : TransGen graph.Edge vertex vertex) :
    ∃ component ∈ graph.components, graph.isLoop component = true := by
  obtain ⟨next, edge, back⟩ := TransGen.head'_iff.1 cycle
  have within := (sound _ edge).1
  obtain ⟨leader, below, leads, collected⟩ :=
    exists_collected sound within (mem_finishing sound within)
  refine ⟨graph.component leader, collected, ?_⟩
  have here : vertex ∈ graph.component leader := (mem_component_iff sound below).2 leads
  have there : next ∈ graph.component leader :=
    (mem_component_iff sound below).2 (leads.trans ⟨.single edge, back⟩)
  match members : graph.component leader with
  | [] => simp [members] at here
  | [only] =>
    -- the way from the vertex to itself is an edge
    rw [members, List.mem_singleton] at here there
    rw [here, there] at edge
    simpa [isLoop, hasEdge, Edge] using edge
  | _ :: _ :: _ => rfl

end Digraph

end LightingDesk.Graph
