import LightingDesk.Act.Review
import LightingDesk.Proofs.Graph.Search
import LightingDesk.Proofs.Playback.Protocol
import Mathlib.Data.List.Permutation

/-!
What a review says of the graph of an act, told without vertices: a node is reported as unreachable if
and only if no way leads to it (`Act.unreachable_mem_review`), and where connections lead around, a cycle
is reported (`Act.exists_cycle_mem_review`).
-/

namespace LightingDesk

open Relation LightingDesk.Graph

namespace Act

variable {act : Act} {id other : NodeId} {vertex : Nat}

/-! ### Ways through an act -/

/-- A connection leads from one node to another. -/
def Joins (act : Act) (id other : NodeId) : Prop :=
  act.hasNode id = true ∧ act.hasNode other = true ∧
    ∃ edge ∈ act.connections, edge.source = id ∧ edge.target = other

/-- One of the nodes of an id is a tracker that has another node among its children. -/
def Tracks (act : Act) (id other : NodeId) : Prop :=
  act.hasNode other = true ∧ ∃ node ∈ act.nodes, node.id = id ∧
    ∃ payload, node.kind = .tracker payload ∧ other ∈ payload.children

def Passage (act : Act) (id other : NodeId) : Prop := act.Joins id other ∨ act.Tracks id other

/-- Passages lead from the start node to the node. -/
def CanReach (act : Act) (id : NodeId) : Prop :=
  ∃ start, act.startId? = some start ∧ ReflTransGen act.Passage start id

theorem hasNode_of_mem {node : ActNode} (member : node ∈ act.nodes) : act.hasNode node.id = true := by
  rw [hasNode_iff_mem_distinctIds, distinctIds, List.mem_dedup]
  exact List.mem_map_of_mem member

theorem mem_of_node? {node : ActNode} (found : act.node? id = some node) : node ∈ act.nodes :=
  List.mem_of_find?_eq_some found

theorem exists_node_of_tracker? {payload : TrackerPayload} (tracker : act.tracker? id = some payload) :
    ∃ node ∈ act.nodes, node.id = id ∧ node.kind = .tracker payload := by
  unfold tracker? at tracker
  split at tracker
  next found kind =>
    obtain rfl := Option.some.inj tracker
    obtain ⟨node, found, kind⟩ := Option.map_eq_some_iff.1 kind
    exact ⟨node, mem_of_node? found, id_of_node? found, kind⟩
  next => cases tracker

theorem tracks_of_tracker? {payload : TrackerPayload} (tracker : act.tracker? id = some payload)
    (present : act.hasNode other = true) (child : other ∈ payload.children) : act.Tracks id other := by
  obtain ⟨node, member, named, kind⟩ := exists_node_of_tracker? tracker
  exact ⟨present, node, member, named, payload, kind, child⟩

theorem joins_of_mem {edge : Connection} (member : edge ∈ act.connections)
    (source : act.hasNode edge.source = true) (target : act.hasNode edge.target = true) :
    act.Joins edge.source edge.target :=
  ⟨source, target, edge, member, rfl, rfl⟩

theorem CanReach.passage (reached : act.CanReach id) (passage : act.Passage id other) :
    act.CanReach other := by
  obtain ⟨start, found, path⟩ := reached
  exact ⟨start, found, path.tail passage⟩

/-! ### Vertices -/

theorem vertex?.lastIndex_eq_none {nodes : List ActNode} {index : Nat} :
    vertex?.lastIndex id nodes index = none ↔ ∀ node ∈ nodes, node.id ≠ id := by
  induction nodes generalizing index with
  | nil => simp [lastIndex]
  | cons node rest ih =>
    have later := @ih (index + 1)
    unfold lastIndex
    cases found : lastIndex id rest (index + 1) <;> simp_all

theorem vertex?.lastIndex_eq_some {nodes : List ActNode} {index : Nat}
    (found : vertex?.lastIndex id nodes index = some vertex) :
    ∃ offset node, vertex = index + offset ∧ nodes[offset]? = some node ∧ node.id = id := by
  induction nodes generalizing index with
  | nil => cases found
  | cons node rest ih =>
    unfold lastIndex at found
    split at found
    next _ later =>
      obtain ⟨offset, last, rfl, listed, named⟩ := ih (later.trans found)
      exact ⟨offset + 1, last, by omega, listed, named⟩
    next =>
      split at found
      next named => exact ⟨0, node, (Option.some.inj found).symm, rfl, by simpa using named⟩
      next => cases found

theorem vertex?_isSome (act : Act) (id : NodeId) : (act.vertex? id).isSome = act.hasNode id := by
  rw [Bool.eq_iff_iff, ← not_iff_not, Bool.not_eq_true, Bool.not_eq_true, Option.isSome_eq_false_iff,
    Option.isNone_iff_eq_none, vertex?, vertex?.lastIndex_eq_none]
  simp [hasNode, node?]

theorem vertex?_of_hasNode (present : act.hasNode id = true) :
    ∃ vertex, act.vertex? id = some vertex :=
  Option.isSome_iff_exists.1 ((act.vertex?_isSome id).trans present)

theorem hasNode_of_vertex? (found : act.vertex? id = some vertex) : act.hasNode id = true := by
  rw [← vertex?_isSome, found]
  rfl

/-- A vertex is the place of a node of its id. -/
theorem idAt_of_vertex? (found : act.vertex? id = some vertex) :
    vertex < act.nodes.length ∧ act.idAt vertex = id := by
  obtain ⟨offset, node, rfl, listed, named⟩ := vertex?.lastIndex_eq_some found
  rw [Nat.zero_add]
  exact ⟨(List.getElem?_eq_some_iff.1 listed).1, by rw [idAt, listed]; exact named⟩

/-! ### Graphs of an act -/

/-- The edges of the graph run between the nodes that are related, and nowhere else. -/
structure Draws (act : Act) (graph : Digraph) (related : NodeId → NodeId → Prop) : Prop where
  size : graph.size = act.nodes.length
  edge : ∀ vertex other, graph.Edge vertex other ↔
    ∃ id next, related id next ∧ act.vertex? id = some vertex ∧ act.vertex? next = some other
  ends : ∀ id next, related id next → act.hasNode id = true ∧ act.hasNode next = true

namespace Draws

variable {graph : Digraph} {related : NodeId → NodeId → Prop} {target : Nat}

theorem sound (draws : act.Draws graph related) : graph.Sound := by
  rintro ⟨source, target⟩ edge
  obtain ⟨id, next, -, first, second⟩ := (draws.edge source target).1 edge
  rw [draws.size]
  exact ⟨(idAt_of_vertex? first).1, (idAt_of_vertex? second).1⟩

theorem lt_size (draws : act.Draws graph related) (found : act.vertex? id = some vertex) :
    vertex < graph.size :=
  draws.size ▸ (idAt_of_vertex? found).1

theorem edge_of_related (draws : act.Draws graph related) (relates : related id other) :
    graph.Edge ((act.vertex? id).getD 0) ((act.vertex? other).getD 0) := by
  obtain ⟨first, second⟩ := draws.ends id other relates
  obtain ⟨source, atSource⟩ := vertex?_of_hasNode first
  obtain ⟨target, atTarget⟩ := vertex?_of_hasNode second
  rw [atSource, atTarget]
  exact (draws.edge source target).2 ⟨id, other, relates, atSource, atTarget⟩

theorem related_of_edge (draws : act.Draws graph related) (edge : graph.Edge vertex target) :
    related (act.idAt vertex) (act.idAt target) := by
  obtain ⟨id, next, relates, first, second⟩ := (draws.edge vertex target).1 edge
  rwa [(idAt_of_vertex? first).2, (idAt_of_vertex? second).2]

theorem mem_reached (draws : act.Draws graph related) (first : act.vertex? id = some vertex)
    (second : act.vertex? other = some target) :
    target ∈ graph.reached vertex ↔ ReflTransGen related id other := by
  rw [Digraph.mem_reached_iff draws.sound (draws.lt_size first)]
  constructor
  · intro path
    have lifted : ReflTransGen related (act.idAt vertex) (act.idAt target) :=
      path.lift act.idAt fun _ _ edge => draws.related_of_edge edge
    rwa [(idAt_of_vertex? first).2, (idAt_of_vertex? second).2] at lifted
  · intro path
    have lifted : ReflTransGen graph.Edge ((act.vertex? id).getD 0) ((act.vertex? other).getD 0) :=
      path.lift (fun id => (act.vertex? id).getD 0) fun _ _ relates => draws.edge_of_related relates
    rwa [first, second] at lifted

theorem exists_loop (draws : act.Draws graph related) (cycle : TransGen related id id) :
    ∃ component ∈ graph.components, graph.isLoop component = true :=
  Digraph.exists_loop_of_cycle draws.sound <|
    cycle.lift (fun id => (act.vertex? id).getD 0) fun _ _ relates => draws.edge_of_related relates

end Draws

theorem connectionGraph_edge {target : Nat} : act.connectionGraph.Edge vertex target ↔
    ∃ edge ∈ act.connections,
      act.vertex? edge.source = some vertex ∧ act.vertex? edge.target = some target := by
  unfold Digraph.Edge connectionGraph
  rw [List.mem_filterMap]
  refine exists_congr fun edge => and_congr_right fun _ => ?_
  cases act.vertex? edge.source <;> cases act.vertex? edge.target <;> simp

theorem mem_childEdges {target : Nat} : (vertex, target) ∈ act.childEdges ↔
    ∃ node ∈ act.nodes, ∃ payload, node.kind = .tracker payload ∧
      act.vertex? node.id = some vertex ∧
        ∃ child ∈ payload.children, act.vertex? child = some target := by
  unfold childEdges
  rw [List.mem_flatMap]
  refine exists_congr fun node => and_congr_right fun _ => ?_
  cases node.kind with
  | tracker payload => cases act.vertex? node.id <;> simp [and_comm]
  | _ => simp

theorem draws_connectionGraph (act : Act) : act.Draws act.connectionGraph act.Joins where
  size := rfl
  edge := by
    intro vertex other
    rw [connectionGraph_edge]
    constructor
    · rintro ⟨edge, member, source, target⟩
      exact ⟨_, _, joins_of_mem member (hasNode_of_vertex? source) (hasNode_of_vertex? target),
        source, target⟩
    · rintro ⟨_, _, ⟨-, -, edge, member, rfl, rfl⟩, source, target⟩
      exact ⟨edge, member, source, target⟩
  ends := fun _ _ joins => ⟨joins.1, joins.2.1⟩

theorem draws_playGraph (act : Act) : act.Draws act.playGraph act.Passage where
  size := rfl
  edge := by
    intro vertex other
    have split : act.playGraph.Edge vertex other ↔
        act.connectionGraph.Edge vertex other ∨ (vertex, other) ∈ act.childEdges := List.mem_append
    rw [split, act.draws_connectionGraph.edge, mem_childEdges]
    constructor
    · rintro (⟨id, next, joins, source, target⟩ | ⟨node, member, payload, kind, source, child, listed,
        target⟩)
      · exact ⟨id, next, .inl joins, source, target⟩
      · exact ⟨node.id, child, .inr ⟨hasNode_of_vertex? target, node, member, rfl, payload, kind,
          listed⟩, source, target⟩
    · rintro ⟨id, next, joins | ⟨-, node, member, rfl, payload, kind, listed⟩, source, target⟩
      · exact .inl ⟨id, next, joins, source, target⟩
      · exact .inr ⟨node, member, payload, kind, source, next, listed, target⟩
  ends := by
    rintro id next (joins | ⟨present, node, member, rfl, -⟩)
    · exact ⟨joins.1, joins.2.1⟩
    · exact ⟨hasNode_of_mem member, present⟩

/-! ### Findings -/

theorem review_of_nodes_eq_nil (empty : act.nodes = []) : act.review = [.empty] := by
  rw [review, empty]
  rfl

/-- A review of an act with nodes reports what its parts find, and nothing else. -/
theorem mem_review {issue : Issue} (nonempty : act.nodes ≠ []) : issue ∈ act.review ↔
    issue ∈ act.danglingIssues ∨ issue ∈ act.cycleIssues ∨
      (∃ node ∈ act.nodes, issue ∈ act.nodeIssues node) ∨ issue ∈ act.startIssues ∨
        issue ∈ act.unreachableIssues := by
  have sorted (issues : List Issue) : issue ∈ ofSeverity .error issues ++
      ofSeverity .warning issues ++ ofSeverity .info issues ↔ issue ∈ issues := by
    simp only [ofSeverity, List.mem_append, List.mem_filter, ← and_or_left, and_iff_left_iff_imp]
    intro _
    cases issue.severity <;> simp
  unfold review
  rw [if_neg (by simpa using nonempty), sorted]
  simp only [List.mem_append, List.mem_flatMap, or_assoc]

theorem unreachable_not_mem_nodeIssues {node : ActNode} : .unreachable id ∉ act.nodeIssues node := by
  intro member
  cases kind : node.kind <;> simp [nodeIssues, kind] at member

theorem mem_unreachableIssues {start : NodeId} (begins : act.startId? = some start) :
    .unreachable id ∈ act.unreachableIssues ↔
      act.hasNode id = true ∧ ¬ReflTransGen act.Passage start id := by
  obtain ⟨vertex, found⟩ := vertex?_of_hasNode (hasNode_of_startId? begins)
  have seen {node : ActNode} (member : node ∈ act.nodes) :
      (act.vertex? node.id).any (act.playGraph.reached vertex).contains = true ↔
        ReflTransGen act.Passage start node.id := by
    obtain ⟨target, listed⟩ := vertex?_of_hasNode (hasNode_of_mem member)
    rw [listed, Option.any_some, List.contains_iff_mem]
    exact act.draws_playGraph.mem_reached found listed
  unfold unreachableIssues
  rw [begins, Option.bind_some, found]
  simp only [List.mem_filterMap]
  constructor
  · rintro ⟨node, member, reported⟩
    split at reported
    next => cases reported
    next missed =>
      obtain rfl := Issue.unreachable.inj (Option.some.inj reported)
      exact ⟨hasNode_of_mem member, fun path => missed ((seen member).2 path)⟩
  · rintro ⟨present, unreached⟩
    obtain ⟨node, listed⟩ := Option.isSome_iff_exists.1 present
    have member := mem_of_node? listed
    obtain rfl := id_of_node? listed
    exact ⟨node, member, if_neg fun reached => unreached ((seen member).1 reached)⟩

/-- The nodes that are reported as unreachable are those that no passages lead to. -/
theorem unreachable_mem_review :
    .unreachable id ∈ act.review ↔ act.hasNode id = true ∧ ¬act.CanReach id := by
  cases begins : act.startId? with
  | none =>
    have empty : act.nodes = [] := startId?_eq_none.1 begins
    simp [review_of_nodes_eq_nil empty, hasNode, node?, empty]
  | some start =>
    have nonempty : act.nodes ≠ [] := by
      intro empty
      simp [startId?_eq_none.2 empty] at begins
    have elsewhere : .unreachable id ∉ act.danglingIssues ∧ .unreachable id ∉ act.cycleIssues ∧
        (¬∃ node ∈ act.nodes, .unreachable id ∈ act.nodeIssues node) ∧
          .unreachable id ∉ act.startIssues := by
      refine ⟨?_, by simp [cycleIssues], ?_, ?_⟩
      · simp only [danglingIssues, List.mem_filterMap]
        rintro ⟨edge, -, found⟩
        split_ifs at found <;> cases found
      · rintro ⟨node, -, found⟩
        exact unreachable_not_mem_nodeIssues found
      · unfold startIssues
        split
        next => split_ifs <;> simp
        next => simp
    have reach : act.CanReach id ↔ ReflTransGen act.Passage start id := by
      simp [CanReach, begins]
    rw [reach, ← mem_unreachableIssues begins, mem_review nonempty]
    simp [elsewhere]

/-- Where connections lead from a node back to it, a cycle is reported. -/
theorem exists_cycle_mem_review (cycle : TransGen act.Joins id id) :
    ∃ nodes, .cycle nodes ∈ act.review := by
  have nonempty : act.nodes ≠ [] := by
    obtain ⟨next, joins, -⟩ := TransGen.head'_iff.1 cycle
    intro empty
    simp [Joins, hasNode, node?, empty] at joins
  obtain ⟨component, listed, loops⟩ := act.draws_connectionGraph.exists_loop cycle
  have reported : .cycle (sortIds (component.map act.idAt)) ∈ act.cycleIssues :=
    List.mem_map.2 ⟨component, List.mem_filter.2 ⟨listed, loops⟩, rfl⟩
  exact ⟨_, (mem_review nonempty).2 (.inr (.inl reported))⟩

end Act

end LightingDesk
