import LightingDesk.Act.Authoring
import LightingDesk.Proofs.Playback.Forewarned

/-!
Acts that are made by editing alone, as opposed to acts that were written down. Their ids are distinct,
their connections join nodes, and taking a node out leaves no mention of it: `Act.Authored.coherent`. So
such an act is never reviewed as dangling, and playing it never ends at a connection that leads nowhere:
`Act.Authored.unbroken`.
-/

namespace LightingDesk

/-! ### Edits -/

/-- One change that an author asks for. Ids that are given to new parts come with it. -/
inductive Edit where
  | addNode (id : NodeId) (name : String) (kind : NodeKind) (position : Position)
  | insertNode (node : ActNode)
  | removeNode (id : NodeId)
  | connect (id : ConnectionId) (source target : NodeId) (kind : ConnectionKind)
  | connectConditional (id : ConnectionId) (source target : NodeId) (guard : String)
  | disconnect (id : ConnectionId)
  | setStartNode (id : NodeId)
  | resetPlayback
  | editNode (id : NodeId) (name : String) (kind : NodeKind → NodeKind)

/-- An id that is given to a new part is not yet that of another one. -/
def Edit.IsFresh (act : Act) : Edit → Prop
  | .addNode id .. => act.hasNode id = false
  | .connect id .. | .connectConditional id .. => act.connection? id = none
  | _ => True

/-- The act after an edit, unless the edit is refused. -/
def Act.edit (act : Act) (now : Timestamp) : Edit → Except GraphError Act
  | .addNode id name kind position => .ok (act.addNode now id name kind position)
  | .insertNode node => act.insertNode now node
  | .removeNode id => (act.removeNode now id).map Prod.snd
  | .connect id source target kind => act.connect now id source target kind
  | .connectConditional id source target guard => act.connectConditional now id source target guard
  | .disconnect id => (act.disconnect now id).map Prod.snd
  | .setStartNode id => act.setStartNode now id
  | .resetPlayback => .ok act.resetPlayback
  | .editNode id name kind => .ok (act.editNode id name kind).2

/-! ### Edits in place

A host holds one act and changes it field by field. An edit that fails on its way keeps what it has changed
so far, so it matters that everything is checked first. -/

/-- A change of the act that a host holds. -/
abbrev InPlace := EStateM GraphError Act

namespace InPlace

/-- Goes on if the act is as it must be, and else fails. -/
def require (holds : Act → Bool) (fault : GraphError) : InPlace Unit := do
  unless holds (← get) do throw fault

def stamp (now : Timestamp) : InPlace Unit := modify fun act => { act with updatedAt := now }

def addNode (now : Timestamp) (node : ActNode) : InPlace Unit := do
  modify fun act => { act with nodes := act.nodes ++ [node] }
  stamp now

def removeNode (now : Timestamp) (id : NodeId) : InPlace Unit := do
  require (fun act => act.hasNode id) (.nodeNotFound id)
  modify fun act => { act with nodes := act.nodes.eraseP fun node => node.id == id }
  modify fun act => { act with
    connections := act.connections.filter fun edge => edge.source != id && edge.target != id }
  modify fun act => { act with startNode := if act.startNode = some id then none else act.startNode }
  modify fun act => { act with nodes := act.nodes.map (Act.forgetChild id) }
  stamp now

def addConnection (now : Timestamp) (edge : Connection) : InPlace Unit := do
  require (fun act => act.hasNode edge.source) (.nodeNotFound edge.source)
  require (fun act => act.hasNode edge.target) (.nodeNotFound edge.target)
  modify fun act => { act with connections := act.connections ++ [edge] }
  stamp now

def disconnect (now : Timestamp) (id : ConnectionId) : InPlace Unit := do
  require (fun act => (act.connection? id).isSome) (.connectionNotFound id)
  stamp now
  modify fun act => { act with connections := act.connections.eraseP fun edge => edge.id == id }

end InPlace

/-- What an edit does to the act of a host, in the order in which it is done. -/
def Edit.inPlace (now : Timestamp) : Edit → InPlace Unit
  | .addNode id name kind position => InPlace.addNode now ⟨id, name, kind, position⟩
  | .insertNode node => do
      InPlace.require (fun act => !act.hasNode node.id) (.duplicateNode node.id)
      InPlace.addNode now node
  | .removeNode id => InPlace.removeNode now id
  | .connect id source target kind => do
      InPlace.require (fun _ => kind != .conditional) (.missingGuard source)
      InPlace.addConnection now ⟨id, source, target, kind, none, none⟩
  | .connectConditional id source target guard =>
      InPlace.addConnection now ⟨id, source, target, .conditional, some guard, none⟩
  | .disconnect id => InPlace.disconnect now id
  | .setStartNode id => do
      InPlace.require (fun act => act.hasNode id) (.nodeNotFound id)
      modify fun act => { act with startNode := some id }
      InPlace.stamp now
  | .resetPlayback => modify fun act => { act with playback := .idle }
  | .editNode id name kind =>
      modify fun act => { act with nodes := Act.editNode.editFirst id name kind act.nodes }

/-- The act of a host after an edit, whether the edit has failed or not. -/
def Act.after (act : Act) (now : Timestamp) (edit : Edit) : Act :=
  match (edit.inPlace now).run act with
  | .ok _ later | .error _ later => later

namespace InPlace

/-- The outcome in place of a change that is made as a whole or not at all. -/
def whole (act : Act) : Except GraphError Act → EStateM.Result GraphError Act Unit
  | .ok later => .ok () later
  | .error fault => .error fault act

variable {act : Act} {now : Timestamp}

theorem run_require_bind (holds : Act → Bool) (fault : GraphError) (next : Unit → InPlace Unit) :
    (require holds fault >>= next).run act =
      if holds act then (next ()).run act else .error fault act := by
  have asked : (require holds fault >>= next).run act =
      ((if holds act then pure () else throw fault : InPlace Unit) >>= next).run act := rfl
  rw [asked]
  cases holds act with
  | false => rfl
  | true => rfl

theorem run_addConnection (edge : Connection) (plain : edge.timeoutMs = none) :
    (addConnection now edge).run act = whole act
      (act.addConnection now edge.id edge.source edge.target edge.kind edge.guard) := by
  rw [addConnection, run_require_bind, Act.addConnection]
  cases act.hasNode edge.source with
  | false => rfl
  | true =>
    rw [if_pos rfl, run_require_bind]
    cases act.hasNode edge.target with
    | false => rfl
    | true =>
      rw [← plain]
      rfl

end InPlace

/-- Nothing is changed in place before all is checked: an edit that fails leaves the act as it was. -/
theorem Edit.run_inPlace (edit : Edit) (act : Act) (now : Timestamp) :
    (edit.inPlace now).run act = InPlace.whole act (act.edit now edit) := by
  cases edit with
  | addNode | resetPlayback | editNode => rfl
  | insertNode node =>
    rw [inPlace, InPlace.run_require_bind, Act.edit, Act.insertNode]
    cases act.hasNode node.id with
    | false => rfl
    | true => rfl
  | removeNode id =>
    rw [inPlace, InPlace.removeNode, InPlace.run_require_bind, Act.edit, Act.removeNode, Act.hasNode]
    cases act.node? id with
    | none => rfl
    | some removed => rfl
  | connect id source target kind =>
    rw [inPlace, InPlace.run_require_bind, Act.edit, Act.connect]
    cases kind with
    | conditional => rfl
    | default | timeout => exact InPlace.run_addConnection _ rfl
  | connectConditional id source target guard => exact InPlace.run_addConnection _ rfl
  | disconnect id =>
    rw [inPlace, InPlace.disconnect, InPlace.run_require_bind, Act.edit, Act.disconnect]
    cases act.connection? id with
    | none => rfl
    | some removed => rfl
  | setStartNode id =>
    rw [inPlace, InPlace.run_require_bind, Act.edit, Act.setStartNode]
    cases act.hasNode id with
    | false => rfl
    | true => rfl

theorem Act.after_of_ok {act later : Act} {now : Timestamp} {edit : Edit}
    (edited : act.edit now edit = .ok later) : act.after now edit = later := by
  rw [after, edit.run_inPlace, edited]
  rfl

theorem Act.after_of_error {act : Act} {now : Timestamp} {edit : Edit} {fault : GraphError}
    (refused : act.edit now edit = .error fault) : act.after now edit = act := by
  rw [after, edit.run_inPlace, refused]
  rfl

/-! ### What editing keeps -/

namespace Act

/-- Ids are distinct, and whatever the act refers to outside its trackers is there. -/
structure Coherent (act : Act) : Prop where
  nodes : (act.nodes.map ActNode.id).Nodup
  connections : (act.connections.map Connection.id).Nodup
  ends : ∀ edge ∈ act.connections, act.hasNode edge.source = true ∧ act.hasNode edge.target = true
  guarded : ∀ edge ∈ act.connections, edge.kind = .conditional → edge.guard.isSome = true
  start : ∀ id, act.startNode = some id → act.hasNode id = true

variable {act later : Act} {now : Timestamp} {id : NodeId}

theorem hasNode_iff_mem : act.hasNode id = true ↔ id ∈ act.nodes.map ActNode.id := by
  rw [hasNode_iff_mem_distinctIds, distinctIds, List.mem_dedup]

theorem not_mem_of_connection?_eq_none {connection : ConnectionId}
    (absent : act.connection? connection = none) : connection ∉ act.connections.map Connection.id := by
  rw [List.mem_map]
  rintro ⟨edge, member, rfl⟩
  simpa using List.find?_eq_none.1 absent edge member

@[simp] theorem id_forgetChild (child : NodeId) (node : ActNode) :
    (forgetChild child node).id = node.id := by
  unfold forgetChild
  split <;> rfl

theorem map_id_editFirst (name : String) (kind : NodeKind → NodeKind) (nodes : List ActNode) :
    (editNode.editFirst id name kind nodes).map ActNode.id = nodes.map ActNode.id := by
  induction nodes with
  | nil => rfl
  | cons node rest ih =>
    unfold editNode.editFirst
    split
    next => rfl
    next => rw [List.map_cons, List.map_cons, ih]

/-- Where ids are distinct, taking out the first node of an id takes out all of them. -/
theorem eraseP_eq_filter {nodes : List ActNode} (distinct : (nodes.map ActNode.id).Nodup) :
    (nodes.eraseP fun node => node.id == id) = nodes.filter fun node => node.id != id := by
  induction nodes with
  | nil => rfl
  | cons node rest ih =>
    obtain ⟨unlike, others⟩ := List.nodup_cons.1 distinct
    by_cases same : node.id = id
    · have kept : ∀ other ∈ rest, (other.id != id) = true := by
        intro other member
        rw [bne_iff_ne, ← same]
        exact fun equal => unlike (equal ▸ List.mem_map_of_mem member)
      rw [List.eraseP_cons_of_pos (by simpa using same), List.filter_cons_of_neg (by simpa using same),
        List.filter_eq_self.2 kept]
    · rw [List.eraseP_cons_of_neg (by simpa using same), List.filter_cons_of_pos (by simpa using same),
        ih others]

namespace Coherent

theorem empty (id : ActId) (name : String) (now : Timestamp) : (Act.empty id name now).Coherent where
  nodes := List.nodup_nil
  connections := List.nodup_nil
  ends := by simp [Act.empty]
  guarded := by simp [Act.empty]
  start := by simp [Act.empty]

/-- What is coherent stays so as long as nodes only come in addition. -/
theorem grow (coherent : act.Coherent) (nodes : (later.nodes.map ActNode.id).Nodup)
    (grown : ∀ id, act.hasNode id = true → later.hasNode id = true)
    (connections : later.connections = act.connections) (start : later.startNode = act.startNode) :
    later.Coherent where
  nodes := nodes
  connections := connections ▸ coherent.connections
  ends := by
    intro edge member
    obtain ⟨source, target⟩ := coherent.ends edge (connections ▸ member)
    exact ⟨grown _ source, grown _ target⟩
  guarded := connections ▸ coherent.guarded
  start := fun id marked => grown id (coherent.start id (start ▸ marked))

theorem addNode (coherent : act.Coherent) (node : ActNode) (fresh : act.hasNode node.id = false) :
    (touch { act with nodes := act.nodes ++ [node] } now).Coherent := by
  refine coherent.grow ?_ ?_ rfl rfl
  · have unlike : node.id ∉ act.nodes.map ActNode.id := by
      rw [← hasNode_iff_mem, fresh]
      exact Bool.false_ne_true
    simpa [touch, List.nodup_append] using ⟨coherent.nodes, fun other member same =>
      unlike (same ▸ List.mem_map_of_mem member)⟩
  · intro id present
    rw [hasNode_iff_mem] at present ⊢
    exact List.map_append ▸ List.mem_append_left _ present

theorem addConnection {connection : ConnectionId} {source target : NodeId} {kind : ConnectionKind}
    {guard : Option String} (coherent : act.Coherent) (fresh : act.connection? connection = none)
    (guarded : kind = .conditional → guard.isSome = true)
    (edited : act.addConnection now connection source target kind guard = .ok later) :
    later.Coherent := by
  unfold Act.addConnection at edited
  split at edited
  next => cases edited
  next sourced =>
    split at edited
    next => cases edited
    next targeted =>
      obtain rfl := Except.ok.inj edited
      have ends : act.hasNode source = true ∧ act.hasNode target = true := by
        simpa using And.intro sourced targeted
      refine ⟨coherent.nodes, ?_, ?_, ?_, coherent.start⟩
      · have unlike := not_mem_of_connection?_eq_none fresh
        simpa [touch, List.nodup_append] using ⟨coherent.connections, fun other member same =>
          unlike (same ▸ List.mem_map_of_mem member)⟩
      · exact List.forall_mem_append.2 ⟨coherent.ends, List.forall_mem_singleton.2 ends⟩
      · exact List.forall_mem_append.2 ⟨coherent.guarded, List.forall_mem_singleton.2 guarded⟩

/-- Connections may be taken out. -/
theorem fewer {connections : List Connection} (coherent : act.Coherent)
    (sublist : connections.Sublist act.connections) :
    (touch { act with connections } now).Coherent where
  nodes := coherent.nodes
  connections := (sublist.map _).nodup coherent.connections
  ends := fun edge member => coherent.ends edge (sublist.subset member)
  guarded := fun edge member => coherent.guarded edge (sublist.subset member)
  start := coherent.start

theorem setStartNode (coherent : act.Coherent) (present : act.hasNode id = true) :
    (touch { act with startNode := some id } now).Coherent where
  nodes := coherent.nodes
  connections := coherent.connections
  ends := coherent.ends
  guarded := coherent.guarded
  start := by
    rintro other marked
    obtain rfl := Option.some.inj marked
    exact present

theorem editNode (coherent : act.Coherent) (name : String) (kind : NodeKind → NodeKind) :
    (act.editNode id name kind).2.Coherent := by
  have ids : (act.editNode id name kind).2.nodes.map ActNode.id = act.nodes.map ActNode.id :=
    map_id_editFirst name kind act.nodes
  refine coherent.grow ?_ ?_ rfl rfl
  · rw [ids]
    exact coherent.nodes
  · intro other present
    rwa [hasNode_iff_mem, ids, ← hasNode_iff_mem]

end Coherent

/-- The same node, but for what its tracker says of one child. -/
structure Spares (child : NodeId) (node kept : ActNode) : Prop where
  id : kept.id = node.id
  name : kept.name = node.name
  position : kept.position = node.position
  kind : kept.kind = match node.kind with
    | .tracker payload =>
        .tracker { payload with children := payload.children.filter fun other => other != child }
    | kind => kind

/-- The act without one of its nodes: nothing mentions the node, and everything else is there in its
order. -/
structure Without (act : Act) (id : NodeId) (later : Act) : Prop where
  absent : later.hasNode id = false
  unconnected : ∀ edge ∈ later.connections, edge.source ≠ id ∧ edge.target ≠ id
  unmarked : later.startNode ≠ some id
  untracked : ∀ node ∈ later.nodes, ∀ payload, node.kind = .tracker payload → id ∉ payload.children
  nodes : List.Forall₂ (Spares id) (act.nodes.filter fun node => node.id != id) later.nodes
  connections : later.connections =
    act.connections.filter fun edge => edge.source != id && edge.target != id
  start : act.startNode ≠ some id → later.startNode = act.startNode
  others : ({ later with
    nodes := act.nodes, connections := act.connections, startNode := act.startNode,
    updatedAt := act.updatedAt } : Act) = act

theorem spares_forgetChild (child : NodeId) (node : ActNode) :
    Spares child node (forgetChild child node) := by
  obtain ⟨id, name, kind, position⟩ := node
  cases kind <;> exact ⟨rfl, rfl, rfl, rfl⟩

theorem Spares.untracked {child : NodeId} {node kept : ActNode} {payload : TrackerPayload}
    (spares : Spares child node kept) (tracker : kept.kind = .tracker payload) :
    child ∉ payload.children := by
  have kind := spares.kind
  rw [tracker] at kind
  cases before : node.kind with
  | tracker other =>
    rw [before, NodeKind.tracker.injEq] at kind
    simp [kind]
  | scene | transition | wait | condition =>
    rw [before] at kind
    cases kind

namespace Coherent

section Removal

variable {removed : ActNode} (coherent : act.Coherent)
  (edited : act.removeNode now id = .ok (removed, later))
include coherent edited

/-- What is left when a node is taken out. -/
theorem removed_eq : act.node? id = some removed ∧
    later.nodes = (act.nodes.filter fun node => node.id != id).map (forgetChild id) ∧
    later = { act with
      nodes := later.nodes
      connections := act.connections.filter fun edge => edge.source != id && edge.target != id
      startNode := if act.startNode = some id then none else act.startNode
      updatedAt := now } := by
  unfold Act.removeNode at edited
  split at edited
  next => cases edited
  next found =>
    obtain ⟨rfl, rfl⟩ := Prod.mk.inj (Except.ok.inj edited)
    exact ⟨found, congrArg (List.map _) (eraseP_eq_filter coherent.nodes), rfl⟩

theorem hasNode_removed (other : NodeId) :
    later.hasNode other = true ↔ act.hasNode other = true ∧ other ≠ id := by
  obtain ⟨-, nodes, -⟩ := coherent.removed_eq edited
  simp only [hasNode_iff_mem, nodes, List.map_map, List.mem_map, List.mem_filter, bne_iff_ne,
    Function.comp_apply, id_forgetChild]
  constructor
  · rintro ⟨node, ⟨member, unlike⟩, rfl⟩
    exact ⟨⟨node, member, rfl⟩, unlike⟩
  · rintro ⟨⟨node, member, rfl⟩, unlike⟩
    exact ⟨node, ⟨member, unlike⟩, rfl⟩

theorem without : act.Without id later := by
  have present := coherent.hasNode_removed edited
  obtain ⟨-, nodes, left⟩ := coherent.removed_eq edited
  have start : later.startNode = if act.startNode = some id then none else act.startNode :=
    congrArg Act.startNode left
  have connections : later.connections =
      act.connections.filter fun edge => edge.source != id && edge.target != id :=
    congrArg Act.connections left
  refine ⟨?_, ?_, ?_, ?_, ?_, connections, ?_, ?_⟩
  · exact Bool.not_eq_true _ ▸ fun found => ((present id).1 found).2 rfl
  · intro edge member
    rw [connections] at member
    simpa using (List.mem_filter.1 member).2
  · rw [start]
    split
    next => exact (Option.some_ne_none id).symm
    next elsewhere => exact elsewhere
  · intro node member payload tracker
    rw [nodes] at member
    obtain ⟨before, -, rfl⟩ := List.mem_map.1 member
    exact (spares_forgetChild id before).untracked tracker
  · rw [nodes, List.forall₂_map_right_iff, List.forall₂_same]
    exact fun node _ => spares_forgetChild id node
  · exact fun elsewhere => start.trans (if_neg elsewhere)
  · rw [left]

theorem removeNode : later.Coherent := by
  have present := coherent.hasNode_removed edited
  have left := coherent.without edited
  have kept : later.connections.Sublist act.connections := left.connections ▸ List.filter_sublist
  refine ⟨?_, (kept.map _).nodup coherent.connections, ?_, ?_, ?_⟩
  · obtain ⟨-, nodes, -⟩ := coherent.removed_eq edited
    have ids : later.nodes.map ActNode.id =
        (act.nodes.filter fun node => node.id != id).map ActNode.id := by
      rw [nodes, List.map_map]
      exact List.map_congr_left fun node _ => id_forgetChild id node
    exact ids ▸ (List.filter_sublist.map _).nodup coherent.nodes
  · intro edge member
    obtain ⟨source, target⟩ := coherent.ends edge (kept.subset member)
    obtain ⟨notSource, notTarget⟩ := left.unconnected edge member
    exact ⟨(present _).2 ⟨source, notSource⟩, (present _).2 ⟨target, notTarget⟩⟩
  · exact fun edge member => coherent.guarded edge (kept.subset member)
  · intro other marked
    have elsewhere : act.startNode ≠ some id := by
      intro here
      have unmarked : later.startNode = none :=
        (congrArg Act.startNode (coherent.removed_eq edited).2.2).trans (if_pos here)
      simp [unmarked] at marked
    refine (present other).2 ⟨coherent.start other (left.start elsewhere ▸ marked), ?_⟩
    exact fun same => left.unmarked (same ▸ marked)

end Removal

/-- No edit spoils a coherent act. -/
theorem edited {edit : Edit} (coherent : act.Coherent) (fresh : edit.IsFresh act)
    (edited : act.edit now edit = .ok later) : later.Coherent := by
  cases edit with
  | addNode id name kind position =>
    obtain rfl := Except.ok.inj edited
    exact coherent.addNode ⟨id, name, kind, position⟩ fresh
  | insertNode node =>
    change act.insertNode now node = _ at edited
    unfold insertNode at edited
    split at edited
    next => cases edited
    next absent =>
      obtain rfl := Except.ok.inj edited
      exact coherent.addNode node (Bool.not_eq_true _ ▸ absent)
  | removeNode id =>
    change (act.removeNode now id).map Prod.snd = _ at edited
    cases answer : act.removeNode now id with
    | error =>
      rw [answer] at edited
      cases edited
    | ok pair =>
      rw [answer] at edited
      obtain rfl := Except.ok.inj edited
      exact coherent.removeNode answer
  | connect id source target kind =>
    change act.connect now id source target kind = _ at edited
    unfold connect at edited
    split at edited
    next => cases edited
    next plain => exact coherent.addConnection fresh (fun same => absurd same plain) edited
  | connectConditional id source target guard =>
    exact coherent.addConnection fresh (fun _ => rfl) edited
  | disconnect id =>
    change (act.disconnect now id).map Prod.snd = _ at edited
    unfold disconnect at edited
    split at edited
    next => cases edited
    next =>
      obtain rfl := Except.ok.inj edited
      exact coherent.fewer List.eraseP_sublist
  | setStartNode id =>
    change act.setStartNode now id = _ at edited
    unfold Act.setStartNode at edited
    split at edited
    next present =>
      obtain rfl := Except.ok.inj edited
      exact coherent.setStartNode present
    next => cases edited
  | resetPlayback =>
    obtain rfl := Except.ok.inj edited
    exact ⟨coherent.nodes, coherent.connections, coherent.ends, coherent.guarded, coherent.start⟩
  | editNode id name kind =>
    obtain rfl := Except.ok.inj edited
    exact coherent.editNode name kind

end Coherent

/-! ### Acts that were only edited -/

/-- The acts that come of an empty one by edits, some of which may have failed. -/
inductive Authored : Act → Prop where
  | empty (id : ActId) (name : String) (now : Timestamp) : Authored (Act.empty id name now)
  | edit {act : Act} (before : Authored act) (now : Timestamp) (edit : Edit) (fresh : edit.IsFresh act) :
      Authored (act.after now edit)

theorem Authored.coherent (authored : act.Authored) : act.Coherent := by
  induction authored with
  | empty id name now => exact .empty id name now
  | @edit act before now edit fresh ih =>
    cases answer : act.edit now edit with
    | error fault =>
      rw [after_of_error answer]
      exact ih
    | ok later =>
      rw [after_of_ok answer]
      exact ih.edited fresh answer

end Act

/-- A connection or the start mark refers to a node that is not there. -/
def Issue.isBroken : Issue → Bool
  | .danglingConnection .. | .missingStartNode _ => true
  | _ => false

/-- The event tells that a playback has ended at a connection that leads nowhere. -/
def Event.IsDangling : Event → Prop
  | .stopped _ _ (.fault (.danglingEdge ..)) => True
  | _ => False

namespace Act

theorem isBroken_of_mem_nodeIssues {act : Act} {node : ActNode} {issue : Issue}
    (found : issue ∈ act.nodeIssues node) : issue.isBroken = false := by
  unfold nodeIssues at found
  dsimp only at found
  split at found
  next =>
    split at found
    next => simp [List.mem_singleton.1 found, Issue.isBroken]
    next => cases found
  next =>
    rcases List.mem_append.1 found with tracker | ignored
    · split at tracker
      next =>
        rcases List.mem_append.1 tracker with childless | missing
        · split at childless
          next => simp [List.mem_singleton.1 childless, Issue.isBroken]
          next => cases childless
        · obtain ⟨child, -, reported⟩ := List.mem_filterMap.1 missing
          split at reported
          next => cases reported
          next => exact Option.some.inj reported ▸ rfl
      next => cases tracker
    · split at ignored
      next => simp [List.mem_singleton.1 ignored, Issue.isBroken]
      next => cases ignored

theorem isBroken_of_mem_unreachableIssues {act : Act} {issue : Issue}
    (found : issue ∈ act.unreachableIssues) : issue.isBroken = false := by
  unfold unreachableIssues at found
  split at found
  next => cases found
  next =>
    obtain ⟨node, -, reported⟩ := List.mem_filterMap.1 found
    split at reported
    next => cases reported
    next => exact Option.some.inj reported ▸ rfl

/-- In a coherent act a review finds no broken reference. -/
theorem Coherent.review {act : Act} {issue : Issue} (coherent : act.Coherent)
    (found : issue ∈ act.review) : issue.isBroken = false := by
  by_cases empty : act.nodes = []
  · rw [review_of_nodes_eq_nil empty, List.mem_singleton] at found
    rw [found]
    rfl
  · rcases (mem_review empty).1 found with dangling | cycle | ⟨node, -, listed⟩ | start | unreachable
    · obtain ⟨edge, member, reported⟩ := List.mem_filterMap.1 dangling
      obtain ⟨source, target⟩ := coherent.ends edge member
      simp [source, target] at reported
    · obtain ⟨component, -, rfl⟩ := List.mem_map.1 cycle
      rfl
    · exact isBroken_of_mem_nodeIssues listed
    · unfold startIssues at start
      split at start
      next id marked => simp [coherent.start id marked] at start
      next => cases start
    · exact isBroken_of_mem_unreachableIssues unreachable

theorem Coherent.not_isDangling {act : Act} {id : PlayerId} {event : Event} (coherent : act.Coherent)
    (admits : act.Admits id event) : ¬event.IsDangling := by
  intro dangles
  unfold Event.IsDangling at dangles
  split at dangles
  next connection source target =>
    obtain ⟨missing, found⟩ := admits.foretold rfl
    cases coherent.review found
  next => exact dangles

/-- An act that is only edited has distinct ids and connections between its nodes, after any edits whether
they failed or not; an edit that fails changes nothing, and taking out a node leaves no mention of it and
everything else in its order. So a review of the act finds no broken reference, and no player of it ever
stops at a connection that leads nowhere, on any clock and over all requests of a host. -/
theorem Authored.unbroken {act : Act} (authored : act.Authored) :
    act.Coherent ∧
    (∀ (edit : Edit) now fault left, (edit.inPlace now).run act = .error fault left → left = act) ∧
    (∀ now id removed later, act.removeNode now id = .ok (removed, later) →
      act.node? id = some removed ∧ act.Without id later) ∧
    (∀ issue ∈ act.review, issue.isBroken = false) ∧
    (∀ {σ ω : Type} [Scheduler σ] [Output ω] {id : PlayerId} {player : Player}
      {log : List (Episode σ ω)}, Career id act player log →
        ∀ episode ∈ log, ∀ event ∈ episode.events, ¬event.IsDangling) ∧
    ∀ {ω : Type} [Output ω] {session : Session ω} {past : List (Session ω × Request ω)},
      Session.Course session past → ∀ id, (id, act) ∈ Session.loaded past →
        ∀ event ∈ session.eventsOf id, ¬event.IsDangling := by
  have coherent := authored.coherent
  refine ⟨coherent, ?_, ?_, fun issue => coherent.review, ?_, ?_⟩
  · intro edit now fault left failed
    rw [edit.run_inPlace] at failed
    cases answer : act.edit now edit with
    | error =>
      rw [answer] at failed
      exact (EStateM.Result.error.inj failed).2.symm
    | ok later =>
      rw [answer] at failed
      cases failed
  · intro now id removed later answer
    exact ⟨(coherent.removed_eq answer).1, coherent.without answer⟩
  · intro σ ω _ _ id player log career episode member event told
    exact coherent.not_isDangling (career.admits episode member event told)
  · intro ω _ session past course id listed event told
    exact coherent.not_isDangling (course.admits listed event told)

/-- A scene, where the act starts, and a tracker that plays it and leads to it. -/
def draft : Act :=
  ((((Act.empty ⟨"act"⟩ "draft" .epoch).after .epoch
    (.addNode ⟨"scene"⟩ "scene" (.scene (.ofScene "dusk")) .origin)).after .epoch
    (.addNode ⟨"tracker"⟩ "tracker" (.tracker (.ofChildren [⟨"scene"⟩])) .origin)).after .epoch
    (.connect ⟨"edge"⟩ ⟨"tracker"⟩ ⟨"scene"⟩ .default)).after .epoch
    (.setStartNode ⟨"scene"⟩)

theorem unbroken_draft : draft.Authored ∧ draft.Coherent ∧
    (∃ removed later, draft.removeNode .epoch ⟨"scene"⟩ = .ok (removed, later) ∧
      draft.Without ⟨"scene"⟩ later ∧ later.nodes.map ActNode.id = [⟨"tracker"⟩]) ∧
    ∃ session : Session Universe, ∃ past, Session.Course session past ∧
      .nodeEntered ⟨1⟩ ⟨"act"⟩ ⟨"scene"⟩ ∈ session.eventsOf ⟨1⟩ ∧
      ∀ event ∈ session.eventsOf ⟨1⟩, ¬event.IsDangling := by
  have authored : draft.Authored := by
    have empty := Authored.empty ⟨"act"⟩ "draft" .epoch
    exact (((empty.edit _ _ (by exact rfl)).edit _ _ (by exact rfl)).edit _ _ (by exact rfl)).edit _ _
      (by exact trivial)
  obtain ⟨coherent, -, removes, -, -, plays⟩ := authored.unbroken
  have taken : (draft.removeNode .epoch ⟨"scene"⟩).toOption.map
      (fun answer => answer.2.nodes.map ActNode.id) = some [⟨"tracker"⟩] := by decide
  obtain ⟨⟨removed, later⟩, answer, left⟩ := Option.map_eq_some_iff.1 taken
  have removal : draft.removeNode .epoch ⟨"scene"⟩ = .ok (removed, later) := by
    cases found : draft.removeNode .epoch ⟨"scene"⟩ with
    | error => simp [found, Except.toOption] at answer
    | ok => simpa [found, Except.toOption] using answer
  obtain ⟨session, played, entered⟩ : ∃ session : Session Universe,
      (Session.bare 3).perform (.play draft) = some session ∧
      .nodeEntered ⟨1⟩ ⟨"act"⟩ ⟨"scene"⟩ ∈ session.eventsOf ⟨1⟩ := ⟨_, rfl, by decide⟩
  have course := (Session.Course.bare 3).perform _ played
  exact ⟨authored, coherent, ⟨removed, later, removal, (removes _ _ _ _ removal).2, left⟩, session, _,
    course, entered, plays course ⟨1⟩ List.mem_cons_self⟩

end Act

end LightingDesk
