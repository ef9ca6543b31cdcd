import LightingDesk.Proofs.Act.Review
import LightingDesk.Proofs.Hazard

/-!
The review of an act with the hazards of each operation: every vertex that it looks up is there, and so is
the first node where it is asked for. `Risky.review_eq` is the main result.
-/

namespace LightingDesk

open LightingDesk.Graph

namespace Risky

/-- The graph with more edges, whose ends have to be vertices. -/
def link (graph : Digraph) (edges : List (Nat × Nat)) : Risky Digraph :=
  if edges.all fun edge => edge.1 < graph.size && edge.2 < graph.size then
    .ok { graph with edges := graph.edges ++ edges }
  else .error .noElement

variable (act : Act)

def vertexId (vertex : Nat) : Risky NodeId := do
  let node ← element act.nodes vertex
  .ok node.id

def cycleIssue (component : List Nat) : Risky Issue := do
  let ids ← component.mapM (vertexId act)
  .ok (.cycle (Act.sortIds ids))

def nodeIssues (node : ActNode) : Risky (List Issue) :=
  let outgoing := act.outgoing node.id
  match node.kind with
  | .condition _ => .ok (act.nodeIssues node)
  | kind => do
      let own := match kind with
        | .tracker payload =>
            (if payload.children.isEmpty then [Issue.emptyTracker node.id] else []) ++
              payload.children.filterMap fun child =>
                if (act.vertex? child).isSome then none else some (.missingTrackerChild node.id child)
        | _ => []
      if 1 < outgoing.length then do
        let ignored ← difference outgoing.length 1
        .ok (own ++ [.ignoredEdges node.id ignored])
      else .ok own

/-- From a tracker to its children that are nodes. -/
def childEdges (node : ActNode) : Risky (List (Nat × Nat)) :=
  match node.kind with
  | .tracker payload => do
      let tracker ← entry (act.vertex? node.id)
      .ok ((payload.children.filterMap act.vertex?).map fun child => (tracker, child))
  | _ => .ok []

def startId : Risky NodeId :=
  match act.startNode with
  | some id =>
      if (act.vertex? id).isSome then .ok id else vertexId act 0
  | none => vertexId act 0

def unreachableIssue (reached : List Nat) (node : ActNode) : Risky (Option Issue) := do
  let vertex ← entry (act.vertex? node.id)
  .ok (if reached.contains vertex then none else some (.unreachable node.id))

/-- The findings on an act. -/
def review : Risky (List Issue) :=
  if act.nodes.isEmpty then .ok [.empty]
  else do
    let connections ← link ⟨act.nodes.length, []⟩ act.connectionGraph.edges
    let cycles ← (connections.components.filter connections.isLoop).mapM (cycleIssue act)
    let nodes ← act.nodes.mapM (nodeIssues act)
    let edges ← act.nodes.mapM (childEdges act)
    let plays ← link connections edges.flatten
    let start ← startId act
    let first ← entry (act.vertex? start)
    let unreachable ← act.nodes.mapM (unreachableIssue act (plays.reached first))
    let issues := act.danglingIssues ++ cycles ++ nodes.flatten ++ act.startIssues ++
      unreachable.filterMap id
    .ok (Act.ofSeverity .error issues ++ Act.ofSeverity .warning issues ++ Act.ofSeverity .info issues)

variable {act} {graph : Digraph} {id : NodeId} {vertex : Nat}

theorem link_eq {edges : List (Nat × Nat)}
    (sound : ∀ edge ∈ edges, edge.1 < graph.size ∧ edge.2 < graph.size) :
    link graph edges = .ok { graph with edges := graph.edges ++ edges } :=
  if_pos (by simpa [List.all_eq_true] using sound)

theorem vertexId_eq (within : vertex < act.nodes.length) : vertexId act vertex = .ok (act.idAt vertex) := by
  have there := List.getElem?_eq_getElem within
  rw [vertexId, element_eq there, ok_bind, Act.idAt, there]
  rfl

theorem entry_vertex?_eq (present : act.hasNode id = true) :
    ∃ vertex, act.vertex? id = some vertex ∧ entry (act.vertex? id) = .ok vertex := by
  obtain ⟨vertex, found⟩ := Act.vertex?_of_hasNode present
  exact ⟨vertex, found, by rw [found]; rfl⟩

theorem cycleIssue_eq {component : List Nat} (within : ∀ vertex ∈ component, vertex < act.nodes.length) :
    cycleIssue act component = .ok (.cycle (Act.sortIds (component.map act.idAt))) := by
  have named : component.mapM (vertexId act) = .ok (component.map act.idAt) :=
    mapM_eq fun vertex member => vertexId_eq (within vertex member)
  rw [cycleIssue, named]
  rfl

theorem nodeIssues_eq (act : Act) (node : ActNode) : nodeIssues act node = .ok (act.nodeIssues node) := by
  unfold nodeIssues Act.nodeIssues
  cases node.kind with
  | condition payload => rfl
  | tracker payload =>
    simp only [Act.vertex?_isSome]
    split
    next several =>
      rw [difference_eq several.le]
      rfl
    next => rw [List.append_nil]
  | scene | wait | transition =>
    dsimp only
    split
    next several =>
      rw [difference_eq several.le]
      rfl
    next => rfl

theorem childEdges_eq {node : ActNode} (listed : node ∈ act.nodes) :
    childEdges act node = .ok (match node.kind, act.vertex? node.id with
      | .tracker payload, some tracker =>
          (payload.children.filterMap act.vertex?).map fun child => (tracker, child)
      | _, _ => []) := by
  obtain ⟨vertex, found, entered⟩ := entry_vertex?_eq (Act.hasNode_of_mem listed)
  unfold childEdges
  rw [entered, found]
  cases node.kind with
  | tracker payload => rfl
  | scene | wait | transition | condition => rfl

theorem startId_eq (nonempty : act.nodes ≠ []) :
    ∃ start, startId act = .ok start ∧ act.startId? = some start ∧ act.hasNode start = true := by
  obtain ⟨first, rest, nodes⟩ := List.exists_cons_of_ne_nil nonempty
  have head : vertexId act 0 = .ok first.id ∧ act.nodes.head?.map ActNode.id = some first.id ∧
      act.hasNode first.id = true := by
    refine ⟨?_, by rw [nodes]; rfl, Act.hasNode_of_mem (nodes ▸ List.mem_cons_self)⟩
    rw [vertexId_eq (List.length_pos_iff.2 nonempty), Act.idAt, nodes]
    rfl
  unfold startId Act.startId?
  cases act.startNode with
  | none => exact ⟨first.id, head⟩
  | some id =>
    dsimp only
    rw [Act.vertex?_isSome]
    split
    next present => exact ⟨id, rfl, rfl, present⟩
    next => exact ⟨first.id, head⟩

theorem unreachableIssue_eq (act : Act) (reached : List Nat) {node : ActNode}
    (listed : node ∈ act.nodes) :
    unreachableIssue act reached node =
      .ok (if (act.vertex? node.id).any reached.contains then none else some (.unreachable node.id)) := by
  obtain ⟨vertex, found, entered⟩ := entry_vertex?_eq (Act.hasNode_of_mem listed)
  rw [unreachableIssue, entered, found]
  rfl

/-- A review misses nothing that it looks up. -/
theorem review_eq (act : Act) : review act = .ok act.review := by
  unfold review Act.review
  split
  next => rfl
  next filled =>
    have nonempty : act.nodes ≠ [] := by simpa using filled
    obtain ⟨start, starts, begins, present⟩ := startId_eq nonempty
    obtain ⟨first, found, entered⟩ := entry_vertex?_eq present
    have connections : link ⟨act.nodes.length, []⟩ act.connectionGraph.edges = .ok act.connectionGraph :=
      link_eq act.draws_connectionGraph.sound
    have cycles : (act.connectionGraph.components.filter act.connectionGraph.isLoop).mapM
        (cycleIssue act) = .ok act.cycleIssues := mapM_eq fun component listed =>
      cycleIssue_eq fun vertex member =>
        Digraph.lt_of_mem_components (List.mem_filter.1 listed).1 member
    have nodes : act.nodes.mapM (nodeIssues act) = .ok (act.nodes.map act.nodeIssues) :=
      mapM_eq fun node _ => nodeIssues_eq act node
    obtain ⟨lists, edges, flat⟩ : ∃ lists, act.nodes.mapM (childEdges act) = .ok lists ∧
        lists.flatten = act.childEdges :=
      ⟨_, mapM_eq fun node listed => childEdges_eq listed, List.flatMap_def.symm⟩
    have plays : link act.connectionGraph act.childEdges = .ok act.playGraph :=
      link_eq fun edge listed => act.draws_playGraph.sound edge (List.mem_append_right _ listed)
    have unreachable := mapM_eq fun node listed =>
      unreachableIssue_eq act (act.playGraph.reached first) listed
    rw [connections, ok_bind, cycles, ok_bind, nodes, ok_bind, edges, ok_bind, flat, plays, ok_bind,
      starts, ok_bind, entered, ok_bind, unreachable, ok_bind, ← List.flatMap_def,
      List.filterMap_map, Act.unreachableIssues, begins, Option.bind_some, found]
    rfl

end Risky

end LightingDesk
