import LightingDesk.Proofs.Graph.Search
import Mathlib.Data.List.Sort

/-!
The components of a graph are listed as they are: every vertex lies in exactly one of the lists, and in
it together with the vertices that paths lead to and back from. `Digraph.Resolves` says so, and
`Digraph.resolves_components` holds of every graph. A component is left and come to again if and only if it
counts as a loop (`Digraph.Resolves.isLoop_iff`).
-/

namespace LightingDesk.Graph

open Relation

namespace Search

variable {successors : Nat → List Nat}

/-- A visit comes to every vertex before it is done with it. -/
theorem visit_finished_subset {depth : Nat} {vertices : List Nat} {search : Search}
    (known : search.finished ⊆ search.visited) :
    (visit successors depth vertices search).finished ⊆
      (visit successors depth vertices search).visited := by
  fun_induction visit successors depth vertices search with
  | case1 => exact known
  | case2 => exact known
  | case3 _ _ _ _ _ ih => exact ih known
  | case4 depth vertex rest search fresh inner inside after =>
    have grown := (visit_grows successors depth (successors vertex)
      { search with visited := vertex :: search.visited }).1
    refine after (List.append_subset.2 ⟨?_, ?_⟩)
    · exact inside (List.Subset.trans known (List.subset_cons_self ..))
    · exact List.forall_mem_singleton.2 (grown List.mem_cons_self)

end Search

namespace Digraph

variable {graph : Digraph} {vertex other : Nat}

/-- The lists are the strongly connected components of the graph, each of them once. -/
structure Resolves (graph : Digraph) (components : List (List Nat)) : Prop where
  /-- A list holds what can be reached from one of its vertices and leads back, and nothing else. -/
  connected : ∀ component ∈ components, ∃ leader < graph.size,
    ∀ vertex, vertex ∈ component ↔ graph.Mutual leader vertex
  ascending : ∀ component ∈ components, component.Pairwise (· < ·)
  complete : ∀ vertex < graph.size, ∃ component ∈ components, vertex ∈ component
  apart : components.Pairwise List.Disjoint

theorem Mutual.refl (graph : Digraph) (vertex : Nat) : graph.Mutual vertex vertex := ⟨.refl, .refl⟩

theorem Mutual.symm (ways : graph.Mutual vertex other) : graph.Mutual other vertex :=
  ⟨ways.2, ways.1⟩

/-- The search is done with vertices of the graph only. -/
theorem lt_of_mem_finishing (sound : graph.Sound) (done : vertex ∈ graph.finishing) :
    vertex < graph.size := by
  have seen : vertex ∈ (Search.visit graph.successors (graph.size + 1) (List.range graph.size)
      .start).visited :=
    Search.visit_finished_subset (List.Subset.refl _) done
  refine Search.visit_invariant (P := (· < graph.size)) ?_ ?_ ?_ vertex seen
  · exact fun before _ next member => sound.successors_lt before next member
  · simp
  · simp [Search.start]

/-- Only components of the vertices in the order are listed. -/
theorem exists_leader {component order : List Nat}
    (listed : component ∈ components.collect graph order) :
    ∃ leader ∈ order, component = graph.component leader := by
  induction order with
  | nil => cases listed
  | cons first later ih =>
    have behind (listed : component ∈ components.collect graph later) :
        ∃ leader ∈ first :: later, component = graph.component leader := by
      obtain ⟨leader, member, same⟩ := ih listed
      exact ⟨leader, .tail _ member, same⟩
    unfold components.collect at listed
    split at listed
    next => exact behind listed
    next =>
      rcases List.mem_cons.1 listed with same | listed
      · exact ⟨first, List.mem_cons_self, same⟩
      · exact behind listed

/-- A component is listed for the last of its vertices in the order, so it is listed once. -/
theorem collect_apart (sound : graph.Sound) {order : List Nat}
    (within : ∀ vertex ∈ order, vertex < graph.size) :
    (components.collect graph order).Pairwise List.Disjoint := by
  induction order with
  | nil => exact .nil
  | cons first later ih =>
    have rest := ih fun vertex member => within vertex (.tail _ member)
    unfold components.collect
    split
    next => exact rest
    next missing =>
      refine List.pairwise_cons.2 ⟨?_, rest⟩
      intro component listed vertex here there
      obtain ⟨leader, member, rfl⟩ := exists_leader listed
      have leads := (mem_component_iff sound (within leader (.tail _ member))).1 there
      have same := (mem_component_iff sound (within first List.mem_cons_self)).1 here
      refine missing (List.any_eq_true.2 ⟨leader, ?_, List.contains_iff_mem.2 member⟩)
      exact (mem_component_iff sound (within first List.mem_cons_self)).2 (same.trans leads.symm)

/-- The search lists every strongly connected component exactly once. -/
theorem resolves_components (sound : graph.Sound) : graph.Resolves graph.components where
  connected := by
    intro component listed
    obtain ⟨leader, done, rfl⟩ := exists_leader listed
    have within := lt_of_mem_finishing sound done
    exact ⟨leader, within, fun vertex => mem_component_iff sound within⟩
  ascending := by
    intro component listed
    obtain ⟨leader, -, rfl⟩ := exists_leader listed
    exact List.pairwise_lt_range.filter _
  complete := by
    intro vertex within
    obtain ⟨leader, below, leads, listed⟩ :=
      exists_collected sound within (mem_finishing sound within)
    exact ⟨graph.component leader, listed, (mem_component_iff sound below).2 leads⟩
  apart := collect_apart sound fun _ done => lt_of_mem_finishing sound done

namespace Resolves

variable {components : List (List Nat)} {component : List Nat}

/-- The vertices of a list are those that can be reached from any of them and lead back to it. -/
theorem mem_iff (resolves : graph.Resolves components) (listed : component ∈ components)
    (member : vertex ∈ component) : other ∈ component ↔ graph.Mutual vertex other := by
  obtain ⟨leader, -, lists⟩ := resolves.connected component listed
  have leads := (lists vertex).1 member
  rw [lists]
  exact ⟨fun reached => leads.symm.trans reached, fun reached => leads.trans reached⟩

theorem exists_mem (resolves : graph.Resolves components) (listed : component ∈ components) :
    ∃ vertex, vertex ∈ component := by
  obtain ⟨leader, -, lists⟩ := resolves.connected component listed
  exact ⟨leader, (lists leader).2 (.refl graph leader)⟩

/-- An edge leads from every vertex of a loop. -/
theorem exists_edge_of_isLoop (resolves : graph.Resolves components)
    (listed : component ∈ components) (loops : graph.isLoop component = true)
    (member : vertex ∈ component) : ∃ next ∈ component, graph.Edge vertex next := by
  match component, resolves.ascending component listed with
  | [only], _ =>
    obtain rfl := List.mem_singleton.1 member
    exact ⟨vertex, member, List.contains_iff_mem.1 loops⟩
  | first :: second :: rest, ascending =>
    -- one of the first two vertices is another one
    obtain ⟨other, among, different⟩ : ∃ other ∈ first :: second :: rest, other ≠ vertex := by
      have less := (List.pairwise_cons.1 ascending).1 second List.mem_cons_self
      by_cases same : first = vertex
      · exact ⟨second, .tail _ List.mem_cons_self, by omega⟩
      · exact ⟨first, List.mem_cons_self, same⟩
    obtain ⟨onward, back⟩ := (resolves.mem_iff listed member).1 among
    rcases onward.cases_head with same | ⟨next, edge, further⟩
    · exact absurd same.symm different
    · exact ⟨next, (resolves.mem_iff listed member).2 ⟨.single edge, further.trans back⟩, edge⟩

/-- A component counts as a loop if and only if its vertices can be left and come to again. -/
theorem isLoop_iff (resolves : graph.Resolves components) (listed : component ∈ components)
    (member : vertex ∈ component) :
    graph.isLoop component = true ↔ TransGen graph.Edge vertex vertex := by
  constructor
  · intro loops
    obtain ⟨next, among, edge⟩ := resolves.exists_edge_of_isLoop listed loops member
    exact .head' edge ((resolves.mem_iff listed member).1 among).2
  · intro cycle
    obtain ⟨next, edge, back⟩ := TransGen.head'_iff.1 cycle
    have among := (resolves.mem_iff listed member).2 ⟨.single edge, back⟩
    match component with
    | [only] =>
      rw [List.mem_singleton] at member among
      rw [member, among] at edge
      exact List.contains_iff_mem.2 edge
    | _ :: _ :: _ => rfl

end Resolves

end Digraph

end LightingDesk.Graph
