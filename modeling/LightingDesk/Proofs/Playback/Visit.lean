import LightingDesk.Proofs.Act.Guard
import LightingDesk.Proofs.Playback.Cursor
import Mathlib.Data.List.Chain
import Mathlib.Data.List.Nodup

/-!
The walk through the graph of an act that a playback has to follow, told without steps, frames and
timers: where it starts, which connection it takes when a node is done, and how it ends. Which guards
match the outcome of a condition is told by `Connection.servesBranch_branchLabel_iff`.
-/

namespace LightingDesk

/-- A node that is reached in the graph; `outcome` is what came of its condition then, if it is one. -/
structure Visit where
  node : NodeId
  outcome : Bool
deriving DecidableEq, Repr

namespace Act

/-- The connection by which a visit is to be left: of a condition the first conditional one that is
guarded by the outcome, or else the first default one; of any other node the first one. -/
def chosen? (act : Act) (visit : Visit) : Option Connection :=
  if act.isCondition visit.node then
    match (act.outgoing visit.node).find? fun edge => edge.servesBranch (branchLabel visit.outcome) with
    | some edge => some edge
    | none => (act.outgoing visit.node).find? fun edge => edge.kind == .default
  else (act.outgoing visit.node).head?

/-- The chosen connection leads to a node of the act. -/
def LeadsOn (act : Act) (visit : Visit) (id : NodeId) : Prop :=
  ∃ edge, act.chosen? visit = some edge ∧ edge.target = id ∧ act.hasNode id = true

/-- A walk through the graph, from the start node along chosen connections. -/
structure Walk (act : Act) (visits : List Visit) : Prop where
  start : ∀ visit, visits.head? = some visit → act.startId? = some visit.node
  chain : visits.IsChain fun visit next => act.LeadsOn visit next.node

/-- The node that a walk comes to next. -/
def Reaches (act : Act) (visits : List Visit) (id : NodeId) : Prop :=
  match visits.getLast? with
  | none => act.startId? = some id
  | some visit => act.LeadsOn visit id

/-- How a playback may end after a visit, given for which reasons it stops. -/
structure Ends (act : Act) (visit : Visit) (stops : StopReason → Prop) : Prop where
  completed : stops .completed ↔ act.outgoing visit.node = []
  dangling : ∀ edge source target, stops (.fault (.danglingEdge edge source target)) ↔
    source = visit.node ∧ ∃ connection, act.chosen? visit = some connection ∧
      connection.id = edge ∧ connection.target = target ∧ act.hasNode target = false
  noMatch : ∀ source branch, stops (.fault (.noMatchingBranch source branch)) ↔
    source = visit.node ∧ branch = branchLabel visit.outcome ∧
      act.outgoing visit.node ≠ [] ∧ act.chosen? visit = none
  only : ∀ reason, stops reason → reason = .completed ∨
    (∃ edge source target, reason = .fault (.danglingEdge edge source target)) ∨
    ∃ source branch, reason = .fault (.noMatchingBranch source branch)

theorem LeadsOn.unique {act : Act} {visit : Visit} {id other : NodeId}
    (leads : act.LeadsOn visit id) (again : act.LeadsOn visit other) : id = other := by
  obtain ⟨edge, chosen, rfl, -⟩ := leads
  obtain ⟨same, found, rfl, -⟩ := again
  rw [Option.some.inj (chosen.symm.trans found)]

/-- The route on which a visited node is completed. -/
def routeOf (act : Act) (visit : Visit) : Route :=
  if act.isCondition visit.node then .ofOutcome act visit.node visit.outcome else .first

variable {act : Act}

theorem Walk.nil : act.Walk [] where
  start := by simp
  chain := List.isChain_nil

theorem Walk.append {visits : List Visit} {id : NodeId} (walk : act.Walk visits)
    (reaches : act.Reaches visits id) (outcome : Bool) :
    act.Walk (visits ++ [⟨id, outcome⟩]) := by
  unfold Reaches at reaches
  refine ⟨?_, ?_⟩
  · intro visit head
    cases visits with
    | nil =>
      obtain rfl := Option.some.inj head
      exact reaches
    | cons first rest => exact walk.start visit head
  · refine walk.chain.append (List.isChain_singleton _) ?_
    intro visit last next head
    obtain rfl := Option.some.inj head
    rw [Option.mem_def] at last
    simpa only [last] using reaches

theorem routeOf_of_tracker? {visit : Visit} {payload : TrackerPayload}
    (tracker : act.tracker? visit.node = some payload) : act.routeOf visit = .first := by
  simp [routeOf, isCondition_of_tracker? tracker]

/-- A connection that has an id is found for it, or another one before it. -/
theorem exists_connection? {edge : Connection} (member : edge ∈ act.connections) :
    ∃ first, act.connection? edge.id = some first ∧ first.id = edge.id := by
  unfold connection?
  cases found : act.connections.find? fun connection => connection.id == edge.id with
  | none =>
    rw [List.find?_eq_none] at found
    exact absurd (beq_self_eq_true edge.id) (found edge member)
  | some first => exact ⟨first, rfl, by simpa using List.find?_some found⟩

theorem connection?_of_mem {edge : Connection} (distinct : (act.connections.map Connection.id).Nodup)
    (member : edge ∈ act.connections) : act.connection? edge.id = some edge := by
  obtain ⟨first, found, same⟩ := exists_connection? member
  rw [found, List.inj_on_of_nodup_map distinct (List.mem_of_find?_eq_some found) member same]

/-- Routes lead along connections of the act. -/
theorem mem_of_connection? {route : Route} {node : NodeId} {edge : Connection}
    (chosen : route.connection? act node = some edge) : edge ∈ act.connections := by
  cases route with
  | first => exact List.mem_of_find?_eq_some chosen
  | along => exact List.mem_of_find?_eq_some chosen
  | noMatch => cases chosen

theorem ofBranch_eq {node : NodeId} (connected : act.outgoing node ≠ []) (branch : String) :
    Route.ofBranch act node branch =
      match (act.outgoing node).find? fun edge => edge.servesBranch branch with
      | some edge => .along edge.id
      | none =>
          match (act.outgoing node).find? fun edge => edge.kind == .default with
          | some edge => .along edge.id
          | none => .noMatch branch := by
  unfold Route.ofBranch
  split
  next none => exact absurd none connected
  next => rfl

/-- The route of a visit leads along the chosen connection, if there is one. -/
theorem routeOf_cases (distinct : (act.connections.map Connection.id).Nodup) (visit : Visit) :
    (act.outgoing visit.node = [] ∧ act.chosen? visit = none ∧ act.routeOf visit = .first) ∨
    (act.outgoing visit.node ≠ [] ∧ act.chosen? visit = none ∧
      act.routeOf visit = .noMatch (branchLabel visit.outcome)) ∨
    ∃ edge, edge ∈ act.outgoing visit.node ∧ act.chosen? visit = some edge ∧
      (act.routeOf visit).connection? act visit.node = some edge := by
  unfold chosen? routeOf
  cases condition : act.isCondition visit.node with
  | false =>
    simp only [Bool.false_eq_true, if_false, Route.connection?, firstOutgoing?_eq_head?]
    cases edges : act.outgoing visit.node with
    | nil => exact .inl ⟨rfl, rfl, trivial⟩
    | cons edge rest => exact .inr (.inr ⟨edge, List.mem_cons_self, rfl, rfl⟩)
  | true =>
    simp only [if_true, Route.ofOutcome]
    by_cases edges : act.outgoing visit.node = []
    · exact .inl ⟨edges, by simp [edges], by simp [Route.ofBranch, edges]⟩
    · rw [ofBranch_eq edges]
      have along {edge : Connection} (member : edge ∈ act.outgoing visit.node) :
          (Route.along edge.id).connection? act visit.node = some edge :=
        connection?_of_mem distinct (List.mem_of_mem_filter member)
      cases served : (act.outgoing visit.node).find? fun edge =>
          edge.servesBranch (branchLabel visit.outcome) with
      | some edge =>
        have member := List.mem_of_find?_eq_some served
        exact .inr (.inr ⟨edge, member, rfl, along member⟩)
      | none =>
        cases standard : (act.outgoing visit.node).find? fun edge => edge.kind == .default with
        | some edge =>
          have member := List.mem_of_find?_eq_some standard
          exact .inr (.inr ⟨edge, member, rfl, along member⟩)
        | none => exact .inr (.inl ⟨edges, rfl, rfl⟩)

end Act

namespace Cursor

variable {act : Act} {memory : TrackerMemory} {generator : Generator}

/-- A visited node that is done leads on along the chosen connection. -/
theorem next_routeOf_iff {outcome : Bool} {due : Cursor}
    (distinct : (act.connections.map Connection.id).Nodup) (visit : Visit) :
    Next act outcome ⟨[visit.node], memory, generator, .complete (act.routeOf visit)⟩ due ↔
      ∃ id, act.LeadsOn visit id ∧ due = ⟨[], memory, generator, .enter id⟩ := by
  constructor
  · intro next
    cases next with
    | @follow _ _ _ _ edge target leads found =>
      have node : act.node? edge.target = some target := found
      refine ⟨target.id, ⟨edge, ?_, (Act.id_of_node? node).symm, Act.hasNode_target found⟩, rfl⟩
      rcases act.routeOf_cases distinct visit with
        ⟨none, -, first⟩ | ⟨-, -, noMatch⟩ | ⟨other, -, chosen, same⟩
      · simp [first, Route.connection?, act.firstOutgoing?_eq_head?, none] at leads
      · simp [noMatch, Route.connection?] at leads
      · rw [chosen, ← same, leads]
  · rintro ⟨id, ⟨edge, chosen, rfl, present⟩, rfl⟩
    rcases act.routeOf_cases distinct visit with
      ⟨-, absent, -⟩ | ⟨-, absent, -⟩ | ⟨other, -, same, leads⟩
    · simp [absent] at chosen
    · simp [absent] at chosen
    · obtain rfl := Option.some.inj (chosen.symm.trans same)
      exact .follow_target leads present

/-- A visited node that is done ends the playback for want of a connection to follow. -/
theorem ends_routeOf (distinct : (act.connections.map Connection.id).Nodup) (visit : Visit) :
    act.Ends visit
      (Stops act ⟨[visit.node], memory, generator, .complete (act.routeOf visit)⟩) := by
  rcases act.routeOf_cases distinct visit with
    ⟨none, absent, first⟩ | ⟨some, absent, noMatch⟩ | ⟨edge, member, chosen, leads⟩
  · have stops : Stops act ⟨[visit.node], memory, generator, .complete (act.routeOf visit)⟩
        .completed := by
      rw [first]
      exact .completed (by simp) (by simp [Route.connection?, act.firstOutgoing?_eq_head?, none])
    constructor <;> simp [stops.iff_eq, none, absent]
  · have stops : Stops act ⟨[visit.node], memory, generator, .complete (act.routeOf visit)⟩
        (.fault (.noMatchingBranch visit.node (branchLabel visit.outcome))) := by
      rw [noMatch]
      exact .noMatch
    constructor <;> simp [stops.iff_eq, some, absent]
  · have connected : act.outgoing visit.node ≠ [] := List.ne_nil_of_mem member
    cases present : act.hasNode edge.target with
    | true =>
      have next : Next act true ⟨[visit.node], memory, generator,
          .complete (act.routeOf visit)⟩ ⟨[], memory, generator, .enter edge.target⟩ :=
        (next_routeOf_iff distinct visit).2 ⟨edge.target, ⟨edge, chosen, rfl, present⟩, rfl⟩
      constructor <;> simp [next.not_stops, connected, chosen, present]
    | false =>
      have stops : Stops act ⟨[visit.node], memory, generator, .complete (act.routeOf visit)⟩
          (.fault (.danglingEdge edge.id visit.node edge.target)) :=
        .dangling leads (by simpa [Act.hasNode, Act.target?] using present)
      refine ⟨by simp [stops.iff_eq, connected], ?_, by simp [stops.iff_eq, chosen], ?_⟩
      · intro id source target
        simp only [stops.iff_eq, StopReason.fault.injEq, Fault.danglingEdge.injEq]
        constructor
        · rintro ⟨rfl, rfl, rfl⟩
          exact ⟨rfl, edge, chosen, rfl, rfl, present⟩
        · rintro ⟨rfl, other, same, rfl, rfl, -⟩
          obtain rfl := Option.some.inj (chosen.symm.trans same)
          exact ⟨rfl, rfl, rfl⟩
      · intro reason stopped
        exact .inr (.inl ⟨_, _, _, stops.iff_eq.1 stopped⟩)

end Cursor

end LightingDesk
