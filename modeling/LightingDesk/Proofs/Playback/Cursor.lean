import LightingDesk.Playback.Player

/-!
A playback seen as a walk of cursors. A cursor holds all that the next step depends on, but for the
outcome of a condition; clock, output and signals have no other say in where the walk goes.
`Cursor.Next` and `Cursor.Stops` say how a walk goes on and how it ends.
-/

namespace LightingDesk

/-- What a playback holds between two steps, and the step that is due. -/
structure Cursor where
  frames : List NodeId
  memory : TrackerMemory
  generator : Generator
  step : Step

/-- The node that a step enters, if it enters one. -/
def Step.entering : Step → List NodeId
  | .enter id => [id]
  | _ => []

/-- The payload of a node that is a tracker. -/
def Act.tracker? (act : Act) (id : NodeId) : Option TrackerPayload :=
  match (act.node? id).map ActNode.kind with
  | some (.tracker payload) => some payload
  | _ => none

def Act.isCondition (act : Act) (id : NodeId) : Bool :=
  (act.node? id).any fun node => node.kind.isCondition

theorem Act.isCondition_of_tracker? {act : Act} {id : NodeId} {payload : TrackerPayload}
    (tracker : act.tracker? id = some payload) : act.isCondition id = false := by
  unfold Act.tracker? at tracker
  unfold Act.isCondition
  cases found : act.node? id with
  | none => rfl
  | some node =>
    cases kind : node.kind <;> simp_all [NodeKind.isCondition]

theorem Act.hasNode_of_tracker? {act : Act} {id : NodeId} {payload : TrackerPayload}
    (tracker : act.tracker? id = some payload) : act.hasNode id = true := by
  unfold Act.tracker? at tracker
  unfold Act.hasNode
  cases found : act.node? id with
  | none => simp [found] at tracker
  | some node => rfl

theorem Act.hasNode_of_isCondition {act : Act} {id : NodeId}
    (condition : act.isCondition id = true) : act.hasNode id = true := by
  unfold Act.isCondition at condition
  unfold Act.hasNode
  cases found : act.node? id with
  | none => simp [found] at condition
  | some node => rfl

theorem Act.id_of_node? {act : Act} {id : NodeId} {node : ActNode}
    (found : act.node? id = some node) : node.id = id := by
  simpa using List.find?_some found

theorem Act.hasNode_target {act : Act} {edge : Connection} {target : ActNode}
    (found : act.target? edge = some target) : act.hasNode target.id = true := by
  have node : act.node? edge.target = some target := found
  rw [Act.id_of_node? node, Act.hasNode, node]
  rfl

namespace Cursor

/-- How a playback goes on from one step to the next; `outcome` is that of the condition that the
step enters, if it enters one. The two last ways are there for steps that do not fit the frames. -/
inductive Next (act : Act) (outcome : Bool) : Cursor → Cursor → Prop where
  | plain {id frames memory generator} (present : act.hasNode id = true)
      (notCondition : act.isCondition id = false) (notTracker : act.tracker? id = none) :
      Next act outcome ⟨frames, memory, generator, .enter id⟩
        ⟨id :: frames, memory, generator, .complete .first⟩
  | condition {id frames memory generator} (condition : act.isCondition id = true) :
      Next act outcome ⟨frames, memory, generator, .enter id⟩
        ⟨id :: frames, memory, generator, .complete (.ofOutcome act id outcome)⟩
  | tracker {id frames memory generator payload} (tracker : act.tracker? id = some payload) :
      Next act outcome ⟨frames, memory, generator, .enter id⟩
        ⟨id :: frames, memory, generator, .trackerStep id⟩
  | child {id frames memory generator payload child} (tracker : act.tracker? id = some payload)
      (due : payload.children[(memory.position id payload).index]? = some child)
      (present : act.hasNode child = true) (idle : child ∉ frames) :
      Next act outcome ⟨frames, memory, generator, .trackerStep id⟩
        ⟨frames, memory, generator, .enter child⟩
  | childless {id frames memory generator payload} (tracker : act.tracker? id = some payload)
      (due : payload.children[(memory.position id payload).index]? = none) :
      Next act outcome ⟨frames, memory, generator, .trackerStep id⟩
        ⟨frames, memory, generator, .complete .first⟩
  | missing {id frames memory generator payload child} (tracker : act.tracker? id = some payload)
      (due : payload.children[(memory.position id payload).index]? = some child)
      (absent : act.hasNode child = false) :
      Next act outcome ⟨frames, memory, generator, .trackerStep id⟩
        ⟨frames, memory.forget id, generator, .complete .first⟩
  | busy {id frames memory generator payload child} (tracker : act.tracker? id = some payload)
      (due : payload.children[(memory.position id payload).index]? = some child)
      (present : act.hasNode child = true) (busy : child ∈ frames) :
      Next act outcome ⟨frames, memory, generator, .trackerStep id⟩
        ⟨frames, memory, generator, .complete .first⟩
  | moveOn {done parent below memory generator route payload position later}
      (tracker : act.tracker? parent = some payload) (children : payload.children ≠ [])
      (moved : payload.mode.advance payload.children.length (memory.position parent payload)
        generator = (.to position, later)) :
      Next act outcome ⟨done :: parent :: below, memory, generator, .complete route⟩
        ⟨parent :: below, memory.store parent position, later, .trackerStep parent⟩
  | finished {done parent below memory generator route payload later}
      (tracker : act.tracker? parent = some payload) (children : payload.children ≠ [])
      (ended : payload.mode.advance payload.children.length (memory.position parent payload)
        generator = (.finished, later)) :
      Next act outcome ⟨done :: parent :: below, memory, generator, .complete route⟩
        ⟨parent :: below, memory.forget parent, later, .complete .first⟩
  | follow {done memory generator route edge target}
      (chosen : route.connection? act done = some edge) (found : act.target? edge = some target) :
      Next act outcome ⟨[done], memory, generator, .complete route⟩
        ⟨[], memory, generator, .enter target.id⟩
  | strayChild {done parent below memory generator route}
      (stray : ∀ payload, act.tracker? parent = some payload → payload.children = []) :
      Next act outcome ⟨done :: parent :: below, memory, generator, .complete route⟩
        ⟨parent :: below, memory, generator, .complete .first⟩
  | strayStep {id frames memory generator} (stray : act.tracker? id = none) :
      Next act outcome ⟨frames, memory, generator, .trackerStep id⟩
        ⟨frames, memory, generator, .complete .first⟩

/-- How a playback ends of itself. -/
inductive Stops (act : Act) : Cursor → StopReason → Prop where
  | vanished {id frames memory generator} (absent : act.hasNode id = false) :
      Stops act ⟨frames, memory, generator, .enter id⟩ .completed
  | noMatch {done memory generator branch} :
      Stops act ⟨[done], memory, generator, .complete (.noMatch branch)⟩
        (.fault (.noMatchingBranch done branch))
  | completed {done memory generator route} (matched : ∀ branch, route ≠ .noMatch branch)
      (unconnected : route.connection? act done = none) :
      Stops act ⟨[done], memory, generator, .complete route⟩ .completed
  | dangling {done memory generator route edge}
      (chosen : route.connection? act done = some edge) (absent : act.target? edge = none) :
      Stops act ⟨[done], memory, generator, .complete route⟩
        (.fault (.danglingEdge edge.id done edge.target))

theorem Stops.unique {act : Act} {cursor : Cursor} {reason other : StopReason}
    (first : Stops act cursor reason) (second : Stops act cursor other) : reason = other := by
  cases first with
  | vanished => cases second; rfl
  | noMatch =>
    cases second with
    | noMatch => rfl
    | completed matched => exact absurd rfl (matched _)
    | dangling chosen => simp [Route.connection?] at chosen
  | completed matched unconnected =>
    cases second with
    | noMatch => exact absurd rfl (matched _)
    | completed => rfl
    | dangling chosen => simp [unconnected] at chosen
  | dangling chosen absent =>
    cases second with
    | noMatch => simp [Route.connection?] at chosen
    | completed matched unconnected => simp [unconnected] at chosen
    | dangling other => rw [chosen, Option.some.injEq] at other; rw [other]

theorem Stops.iff_eq {act : Act} {cursor : Cursor} {reason other : StopReason}
    (stops : Stops act cursor reason) : Stops act cursor other ↔ other = reason :=
  ⟨fun again => again.unique stops, fun same => same ▸ stops⟩

/-- Going on and ending exclude each other. -/
theorem Next.not_stops {act : Act} {outcome : Bool} {before after : Cursor} {reason : StopReason}
    (next : Next act outcome before after) : ¬Stops act before reason := by
  intro stops
  cases stops with
  | vanished absent =>
    cases next with
    | plain present => simp [absent] at present
    | condition condition => simp [Act.hasNode_of_isCondition condition] at absent
    | tracker tracker => simp [Act.hasNode_of_tracker? tracker] at absent
  | noMatch => cases next with | follow chosen => simp [Route.connection?] at chosen
  | completed matched unconnected => cases next with | follow chosen => simp [unconnected] at chosen
  | dangling chosen absent =>
    cases next with
    | follow other found =>
      rw [chosen, Option.some.injEq] at other
      simp [← other, absent] at found

/-- A tracker that is entered takes its own step next. -/
theorem Next.eq_of_tracker? {act : Act} {outcome : Bool} {id : NodeId} {payload : TrackerPayload}
    {frames : List NodeId} {memory : TrackerMemory} {generator : Generator} {after : Cursor}
    (found : act.tracker? id = some payload)
    (next : Next act outcome ⟨frames, memory, generator, .enter id⟩ after) :
    after = ⟨id :: frames, memory, generator, .trackerStep id⟩ := by
  cases next with
  | plain _ _ notTracker => simp [found] at notTracker
  | condition condition => simp [Act.isCondition_of_tracker? found] at condition
  | tracker => rfl

section Completion

variable {act : Act} {outcome : Bool} {done : NodeId} {memory : TrackerMemory}
  {generator : Generator} {route : Route} {after : Cursor}

/-- A connection whose target exists is followed. -/
theorem Next.follow_target {edge : Connection} (chosen : route.connection? act done = some edge)
    (present : act.hasNode edge.target = true) :
    Next act outcome ⟨[done], memory, generator, .complete route⟩
      ⟨[], memory, generator, .enter edge.target⟩ := by
  obtain ⟨target, found⟩ := Option.isSome_iff_exists.1 present
  have next : Next act outcome ⟨[done], memory, generator, .complete route⟩
      ⟨[], memory, generator, .enter target.id⟩ := .follow chosen found
  rwa [Act.id_of_node? found] at next

theorem Next.eq_of_connection? {edge : Connection}
    (chosen : route.connection? act done = some edge)
    (next : Next act outcome ⟨[done], memory, generator, .complete route⟩ after) :
    after = ⟨[], memory, generator, .enter edge.target⟩ := by
  cases next with
  | follow other found =>
    obtain rfl := Option.some.inj (chosen.symm.trans other)
    have node : act.node? edge.target = some _ := found
    rw [Act.id_of_node? node]

/-- A child that is done gives way to its parent. -/
theorem Next.parent {parent : NodeId} {below : List NodeId}
    (next : Next act outcome ⟨done :: parent :: below, memory, generator, .complete route⟩ after) :
    after.frames = parent :: below ∧
      (after.step = .trackerStep parent ∨ after.step = .complete .first) := by
  cases next with
  | moveOn => exact ⟨rfl, .inl rfl⟩
  | finished => exact ⟨rfl, .inr rfl⟩
  | strayChild => exact ⟨rfl, .inr rfl⟩

end Completion

end Cursor

end LightingDesk
