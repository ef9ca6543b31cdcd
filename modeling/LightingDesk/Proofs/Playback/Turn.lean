import LightingDesk.Proofs.Playback.Cursor

/-!
What one step of a player can do. `Player.execute_turned` lists it once; later modules argue from
that list and open no step again.
-/

namespace LightingDesk

def TraceEntry.entered? (entry : TraceEntry) : Option NodeId :=
  match entry.deed with
  | .event (.nodeEntered _ _ node) => some node
  | _ => none

def Event.entered? : Event → Option NodeId
  | .nodeEntered _ _ node => some node
  | _ => none

theorem TraceEntry.entered?_eq (entry : TraceEntry) :
    entry.entered? = entry.event?.bind Event.entered? := by
  cases deed : entry.deed with
  | event event =>
    simp only [event?, entered?, deed, Option.bind_some]
    cases event <;> rfl
  | write => simp only [event?, entered?, deed, Option.bind_none]

/-- How long a node waits once it has been entered, or a tracker between two children. -/
def NodeKind.delay? : NodeKind → Option Nat
  | .wait payload => some (Player.delayOf payload.durationMs)
  | .transition payload => some (Player.delayOf payload.durationMs)
  | .tracker payload => some (Span.ofMilliseconds payload.stepDelayMs.toNat)
  | .scene _ | .condition _ => none

def Act.delay? (act : Act) (id : NodeId) : Option Nat :=
  (act.node? id).bind fun node => node.kind.delay?

namespace Stage

variable {σ ω : Type}

/-- From one state of a stage to a later one, exactly these nodes are reported as entered. -/
def Enters (before after : Stage σ ω) (nodes : List NodeId) : Prop :=
  ∃ entries, after.trace.toList = before.trace.toList ++ entries ∧
    entries.filterMap TraceEntry.entered? = nodes

/-- From one state of a stage to a later one, exactly these events are reported. -/
def Tells (before after : Stage σ ω) (events : List Event) : Prop :=
  ∃ entries, after.trace.toList = before.trace.toList ++ entries ∧
    entries.filterMap TraceEntry.event? = events

theorem Tells.refl (stage : Stage σ ω) : stage.Tells stage [] :=
  ⟨[], by simp, rfl⟩

theorem Tells.trans {first second third : Stage σ ω} {events others : List Event}
    (before : first.Tells second events) (after : second.Tells third others) :
    first.Tells third (events ++ others) := by
  obtain ⟨entries, grown, told⟩ := before
  obtain ⟨more, grownMore, toldMore⟩ := after
  refine ⟨entries ++ more, ?_, ?_⟩
  · rw [grownMore, grown, List.append_assoc]
  · rw [List.filterMap_append, told, toldMore]

theorem Tells.enters {before after : Stage σ ω} {events : List Event}
    (tells : before.Tells after events) : before.Enters after (events.filterMap Event.entered?) := by
  obtain ⟨entries, grown, rfl⟩ := tells
  refine ⟨entries, grown, ?_⟩
  rw [List.filterMap_filterMap]
  congr 1
  funext entry
  exact entry.entered?_eq

theorem Enters.refl (stage : Stage σ ω) : stage.Enters stage [] :=
  ⟨[], by simp, rfl⟩

theorem Enters.trans {first second third : Stage σ ω} {nodes others : List NodeId}
    (before : first.Enters second nodes) (after : second.Enters third others) :
    first.Enters third (nodes ++ others) := by
  obtain ⟨entries, grown, entered⟩ := before
  obtain ⟨more, grownMore, enteredMore⟩ := after
  refine ⟨entries ++ more, ?_, ?_⟩
  · rw [grownMore, grown, List.append_assoc]
  · rw [List.filterMap_append, entered, enteredMore]

variable [Scheduler σ]

theorem tells_emit (stage : Stage σ ω) (event : Event) : stage.Tells (stage.emit event) [event] :=
  ⟨[⟨Scheduler.now stage.clock, event.player, .event event⟩], by simp [emit], rfl⟩

theorem enters_emit (stage : Stage σ ω) (event : Event) :
    stage.Enters (stage.emit event) event.entered?.toList := by
  have enters := (stage.tells_emit event).enters
  cases event <;> exact enters

theorem emit_injective {stage : Stage σ ω} {event other : Event}
    (same : stage.emit event = stage.emit other) : event = other := by
  have traces := congrArg Stage.trace same
  simp only [emit, Array.push_eq_push, TraceEntry.mk.injEq, Deed.event.injEq] at traces
  exact traces.1.2.2

variable [Output ω]

theorem clock_apply (player : PlayerId) (muted : FixtureSet) (levels : List (UInt16 × UInt8))
    (stage : Stage σ ω) : (apply player muted levels stage).clock = stage.clock := by
  induction levels generalizing stage with
  | nil => rfl
  | cons level rest ih =>
    rw [apply, ih]
    split <;> rfl

/-- Writing a scene reports nothing. -/
theorem tells_apply (player : PlayerId) (muted : FixtureSet) (levels : List (UInt16 × UInt8))
    (stage : Stage σ ω) : stage.Tells (apply player muted levels stage) [] := by
  induction levels generalizing stage with
  | nil => exact .refl stage
  | cons level rest ih =>
    have first : stage.Tells (if stage.isMuted muted level.1 then stage
        else stage.write player level.1 level.2) [] := by
      split
      · exact .refl stage
      · exact ⟨[⟨Scheduler.now stage.clock, player, .write level.1 level.2⟩], by simp [write], rfl⟩
    rw [apply]
    simpa using first.trans (ih _)

end Stage

namespace Player

def cursor (player : Player) (step : Step) : Cursor :=
  ⟨player.frames, player.memory, player.generator, step⟩

/-- An idle player after the end of a playback. -/
def ended (player : Player) : Player :=
  { player with playing := false, generation := player.generation + 1, waiting := none, frames := [] }

/-- What stays as it is while a playback goes on. -/
structure Continues (player later : Player) : Prop where
  id : later.id = player.id
  act : later.act = player.act
  settings : later.settings = player.settings
  playing : later.playing = player.playing
  generation : later.generation = player.generation
  startedAt : later.startedAt = player.startedAt
  burstAt : later.burstAt = player.burstAt
  burstSteps : later.burstSteps = player.burstSteps
  steps : later.steps = player.steps
  maxDepth : later.maxDepth ≤ max player.maxDepth later.frames.length

theorem continues_at (player : Player) (frames : List NodeId) (memory : TrackerMemory)
    (generator : Generator) : player.Continues { player with frames, memory, generator } :=
  ⟨rfl, rfl, rfl, rfl, rfl, rfl, rfl, rfl, rfl, Nat.le_max_left _ _⟩

/-- The delay that the innermost node asks for. -/
def delay? (player : Player) : Option Nat := player.frames.head?.bind player.act.delay?

variable {σ ω : Type}

/-- What a step reports unless it ends the playback: the node that it enters, and warnings. -/
def Reports (player : Player) (step : Step) (before after : Stage σ ω) : Prop :=
  ∃ faults : List Fault, (∀ fault ∈ faults, fault.isTerminal = false) ∧
    before.Tells after (step.entering.map (.nodeEntered player.id player.act.id) ++
      faults.map (.warning player.id player.act.id))

theorem Reports.enters {player : Player} {step : Step} {before after : Stage σ ω}
    (reports : player.Reports step before after) : before.Enters after step.entering := by
  obtain ⟨faults, -, tells⟩ := reports
  have entered : (step.entering.map (Event.nodeEntered player.id player.act.id)).filterMap
      Event.entered? = step.entering := by
    rw [List.filterMap_map]
    exact List.filterMap_some
  have warned : (faults.map (Event.warning player.id player.act.id)).filterMap
      Event.entered? = [] := by
    simp [List.filterMap_eq_nil_iff, Event.entered?]
  have enters := tells.enters
  rwa [List.filterMap_append, entered, warned, List.append_nil] at enters

theorem Reports.silent {player : Player} {step : Step} (stage : Stage σ ω)
    (enters : step.entering = []) : player.Reports step stage stage :=
  ⟨[], by simp, by rw [enters]; exact .refl stage⟩

variable [Scheduler σ]

/-- A step that enters nothing and gives a warning. -/
theorem Reports.warn {player : Player} {step : Step} {fault : Fault} (stage : Stage σ ω)
    (recovers : fault.isTerminal = false) (enters : step.entering = []) :
    player.Reports step stage (player.warn stage fault) :=
  ⟨[fault], by simpa using recovers, by rw [enters]; exact stage.tells_emit _⟩

theorem finish_eq (player : Player) (stage : Stage σ ω) (reason : StopReason)
    (free : player.waiting = none) :
    player.finish stage reason =
      (player.ended, stage.emit (.stopped player.id player.act.id reason)) := by
  simp only [finish, free, ended]

theorem await_of_free {player : Player} (free : player.waiting = none) (stage : Stage σ ω) (wait : Wait) :
    player.await stage wait = ({ player with waiting := some wait }, stage) := by
  rw [await, free]

theorem arm_eq_some {player later : Player} {stage stage' : Stage σ ω} {delay : Nat} {resume : Step}
    {curve : Option Curve} (free : player.waiting = none)
    (armed : player.arm stage delay resume curve = some (later, stage')) :
    ∃ handle clock, Scheduler.schedule stage.clock delay player.token = some (handle, clock) ∧
      later = { player with
        waiting := some ⟨handle, resume, Scheduler.now clock, delay, curve, false⟩ } ∧
      stage' = stage.withClock clock := by
  simp only [arm, Option.bind_eq_bind, Option.bind_eq_some_iff, await_of_free free, Option.some.injEq,
    Prod.mk.injEq] at armed
  obtain ⟨⟨handle, clock⟩, scheduled, rfl, rfl⟩ := armed
  exact ⟨handle, clock, scheduled, rfl, rfl⟩

theorem armYield_eq_some {player later : Player} {stage stage' : Stage σ ω} {resume : Step}
    (free : player.waiting = none) (armed : player.armYield stage resume = some (later, stage')) :
    ∃ handle clock, Scheduler.scheduleYield stage.clock player.token = some (handle, clock) ∧
      later = { player with
        waiting := some ⟨handle, resume, Scheduler.now clock, 0, none, true⟩ } ∧
      stage' = stage.withClock clock := by
  simp only [armYield, Option.bind_eq_bind, Option.bind_eq_some_iff, await_of_free free, Option.some.injEq,
    Prod.mk.injEq] at armed
  obtain ⟨⟨handle, clock⟩, scheduled, rfl, rfl⟩ := armed
  exact ⟨handle, clock, scheduled, rfl, rfl⟩

variable [Output ω]

/-- What comes out of the condition that a step enters. -/
def outcome (player : Player) (stage : Stage σ ω) : Step → Bool
  | .enter id =>
      match (player.act.node? id).map ActNode.kind with
      | some (.condition payload) => player.test stage payload.predicate
      | _ => false
  | _ => false

/-- What can come of a step of a player that waits for nothing. -/
inductive Turned (player : Player) (stage : Stage σ ω) (step : Step) : Turn σ ω → Prop where
  | stopped {reason} (stops : (player.cursor step).Stops player.act reason) :
      Turned player stage step
        (player.ended, stage.emit (.stopped player.id player.act.id reason), none)
  | goesOn {later stage' due}
      (next : (player.cursor step).Next player.act (player.outcome stage step) (later.cursor due))
      (continues : player.Continues later) (free : later.waiting = none)
      (clock : stage'.clock = stage.clock) (reports : player.Reports step stage stage') :
      Turned player stage step (later, stage', some due)
  | waits {later stage' due handle delay curve}
      (next : (player.cursor step).Next player.act (player.outcome stage step) (later.cursor due))
      (continues : player.Continues later)
      (waiting : later.waiting =
        some ⟨handle, due, Scheduler.now stage'.clock, delay, curve, false⟩)
      (armed : Scheduler.schedule stage.clock delay player.token = some (handle, stage'.clock))
      (reports : player.Reports step stage stage') (timed : later.delay? = some delay) :
      Turned player stage step (later, stage', none)
  | stuck {route} (empty : player.frames = []) (complete : step = .complete route) :
      Turned player stage step (player, stage, none)


/-- Pausing on a timer is a turn whenever the step leads on to what the timer resumes. -/
theorem turned_of_arm {player moved : Player} {stage shown : Stage σ ω} {step resume : Step}
    {delay : Nat} {curve : Option Curve} {turn : Turn σ ω}
    (taken : pause (moved.arm shown delay resume curve) = some turn)
    (next : (player.cursor step).Next player.act (player.outcome stage step) (moved.cursor resume))
    (continues : player.Continues moved) (free : moved.waiting = none)
    (clock : shown.clock = stage.clock) (reports : player.Reports step stage shown)
    (timed : moved.delay? = some delay) : player.Turned stage step turn := by
  unfold pause at taken
  cases armed : moved.arm shown delay resume curve with
  | none => simp [armed] at taken
  | some pair =>
    obtain ⟨later, stage'⟩ := pair
    simp only [armed, Option.map_some, Option.some.injEq] at taken
    obtain ⟨handle, reached, scheduled, rfl, rfl⟩ := arm_eq_some free armed
    subst taken
    have token : moved.token = player.token := by
      simp only [Player.token, continues.id, continues.generation]
    rw [clock, token] at scheduled
    exact .waits next { continues with } rfl scheduled reports timed

theorem tells_showScene (player : Player) (stage : Stage σ ω) (node : NodeId)
    (payload : ScenePayload) : ∃ faults : List Fault, (∀ fault ∈ faults, fault.isTerminal = false) ∧
      stage.Tells (player.showScene stage node payload)
        (faults.map (.warning player.id player.act.id)) := by
  unfold showScene
  split
  · exact ⟨[], by simp, .refl stage⟩
  · split
    · exact ⟨[], by simp, stage.tells_apply _ _ _⟩
    · exact ⟨[.missingScene node payload.scene], by simp [Fault.isTerminal], stage.tells_emit _⟩

theorem clock_showScene (player : Player) (stage : Stage σ ω) (node : NodeId)
    (payload : ScenePayload) : (player.showScene stage node payload).clock = stage.clock := by
  unfold showScene
  split
  · rfl
  · split
    · exact Stage.clock_apply _ _ _ _
    · rfl

theorem enter_turned {player : Player} {stage : Stage σ ω} {id : NodeId} {turn : Turn σ ω}
    (free : player.waiting = none) (taken : player.enter stage id = some turn) :
    player.Turned stage (.enter id) turn := by
  unfold enter at taken
  cases found : player.act.node? id with
  | none =>
    simp only [found, finish_eq player stage _ free, pause, Option.map_some,
      Option.some.injEq] at taken
    subst taken
    exact .stopped (.vanished (by simp [Act.hasNode, found]))
  | some node =>
    have present : player.act.hasNode id = true := by simp [Act.hasNode, found]
    have entered : player.Reports (.enter id) stage
        (stage.emit (.nodeEntered player.id player.act.id id)) :=
      ⟨[], by simp, stage.tells_emit _⟩
    have continues : player.Continues { player with
        frames := id :: player.frames
        maxDepth := max player.maxDepth (id :: player.frames).length } :=
      ⟨rfl, rfl, rfl, rfl, rfl, rfl, rfl, rfl, rfl, Nat.le_refl _⟩
    simp only [found] at taken
    cases kind : node.kind with
    | scene payload =>
      simp only [kind, goOn, Option.some.injEq] at taken
      subst taken
      refine .goesOn (.plain present ?_ ?_) continues free (clock_showScene _ _ _ _) ?_
      · simp [Act.isCondition, found, kind, NodeKind.isCondition]
      · simp [Act.tracker?, found, kind]
      · obtain ⟨faults, recover, tells⟩ := tells_showScene { player with
            frames := id :: player.frames
            maxDepth := max player.maxDepth (id :: player.frames).length }
          (stage.emit (.nodeEntered player.id player.act.id id)) id payload
        exact ⟨faults, recover, (stage.tells_emit _).trans tells⟩
    | transition payload =>
      simp only [kind] at taken
      refine turned_of_arm taken (.plain present ?_ ?_) continues free rfl entered ?_
      · simp [Act.isCondition, found, kind, NodeKind.isCondition]
      · simp [Act.tracker?, found, kind]
      · simp [Player.delay?, Act.delay?, found, kind, NodeKind.delay?]
    | wait payload =>
      simp only [kind] at taken
      refine turned_of_arm taken (.plain present ?_ ?_) continues free rfl entered ?_
      · simp [Act.isCondition, found, kind, NodeKind.isCondition]
      · simp [Act.tracker?, found, kind]
      · simp [Player.delay?, Act.delay?, found, kind, NodeKind.delay?]
    | condition payload =>
      simp only [kind, goOn, Option.some.injEq] at taken
      subst taken
      have tested : player.outcome stage (.enter id) = player.test stage payload.predicate := by
        simp [outcome, found, kind]
      have next : (player.cursor (.enter id)).Next player.act (player.outcome stage (.enter id))
          ⟨id :: player.frames, player.memory, player.generator,
            .complete (.ofOutcome player.act id (player.outcome stage (.enter id)))⟩ :=
        .condition (by simp [Act.isCondition, found, kind, NodeKind.isCondition])
      rw [tested] at next
      refine .goesOn ?_ continues free rfl entered
      rw [tested]
      exact next
    | tracker payload =>
      simp only [kind, goOn, Option.some.injEq] at taken
      subst taken
      exact .goesOn (.tracker (by simp [Act.tracker?, found, kind]; rfl)) continues free rfl entered

theorem childDone_turned {player : Player} {stage : Stage σ ω} {route : Route}
    {done parent : NodeId} {below : List NodeId} {turn : Turn σ ω} (free : player.waiting = none)
    (frames : player.frames = done :: parent :: below)
    (taken : { player with frames := parent :: below }.childDone stage parent = some turn) :
    player.Turned stage (.complete route) turn := by
  have cursor : player.cursor (.complete route) =
      ⟨done :: parent :: below, player.memory, player.generator, .complete route⟩ := by
    rw [Player.cursor, frames]
  have stray (none : ∀ payload, player.act.tracker? parent = some payload →
      payload.children = []) (taken : goOn { player with frames := parent :: below } stage
        (.complete .first) = some turn) : player.Turned stage (.complete route) turn := by
    simp only [goOn, Option.some.injEq] at taken
    subst taken
    refine .goesOn ?_ (player.continues_at _ _ _) free rfl (.silent stage rfl)
    rw [cursor]
    exact .strayChild none
  unfold childDone at taken
  split at taken
  next payload kind =>
    have tracker : player.act.tracker? parent = some payload := by
      simp only [Act.tracker?, kind]
    split at taken
    next empty =>
      refine stray ?_ taken
      intro other same
      rw [tracker, Option.some.injEq] at same
      rw [← same]
      simpa using empty
    next children =>
      have nonempty : payload.children ≠ [] := by simpa using children
      cases moved : payload.mode.advance payload.children.length
          (player.memory.position parent payload) player.generator with
      | mk move later =>
        cases move with
        | finished =>
          simp only [moved, goOn, Option.some.injEq] at taken
          subst taken
          refine .goesOn ?_ (player.continues_at _ _ _) free rfl (.silent stage rfl)
          rw [cursor]
          exact .finished tracker nonempty moved
        | «to» position =>
          simp only [moved] at taken
          have timed : player.act.delay? parent =
              some (Span.ofMilliseconds payload.stepDelayMs.toNat) := by
            obtain ⟨node, found, kind⟩ := Option.map_eq_some_iff.1 kind
            simp [Act.delay?, found, kind, NodeKind.delay?]
          refine turned_of_arm taken ?_ (player.continues_at _ _ _) free rfl (.silent stage rfl) timed
          rw [cursor]
          exact .moveOn tracker nonempty moved
  next other =>
    refine stray ?_ taken
    intro payload tracker
    unfold Act.tracker? at tracker
    split at tracker
    next found kind => exact absurd kind (other _)
    next => simp at tracker

theorem follow_turned {player : Player} {stage : Stage σ ω} {route : Route} {done : NodeId}
    {turn : Turn σ ω} (free : player.waiting = none) (frames : player.frames = [done])
    (taken : { player with frames := [] }.follow stage done route = some turn) :
    player.Turned stage (.complete route) turn := by
  have cursor : player.cursor (.complete route) =
      ⟨[done], player.memory, player.generator, .complete route⟩ := by
    rw [Player.cursor, frames]
  have stopped {reason : StopReason} (stops : (player.cursor (.complete route)).Stops player.act reason)
      (taken : pause (some ({ player with frames := [] }.finish stage reason)) = some turn) :
      player.Turned stage (.complete route) turn := by
    rw [finish_eq { player with frames := [] } stage reason free] at taken
    simp only [pause, Option.map_some, Option.some.injEq] at taken
    subst taken
    exact .stopped stops
  unfold follow at taken
  split at taken
  next branch => exact stopped (by rw [cursor]; exact .noMatch) taken
  next notNoMatch =>
    split at taken
    next unconnected =>
      exact stopped (by rw [cursor]; exact .completed notNoMatch unconnected) taken
    next edge chosen =>
      split at taken
      next target found =>
        simp only [goOn, Option.some.injEq] at taken
        subst taken
        refine .goesOn ?_ (player.continues_at _ _ _) free rfl (.silent stage rfl)
        rw [cursor]
        exact .follow chosen found
      next absent => exact stopped (by rw [cursor]; exact .dangling chosen absent) taken

theorem complete_turned {player : Player} {stage : Stage σ ω} {route : Route} {turn : Turn σ ω}
    (free : player.waiting = none) (taken : player.complete stage route = some turn) :
    player.Turned stage (.complete route) turn := by
  unfold complete at taken
  split at taken
  next empty =>
    simp only [pause, Option.map_some, Option.some.injEq] at taken
    subst taken
    exact .stuck empty rfl
  next done below frames =>
    cases below with
    | nil => exact follow_turned free frames taken
    | cons parent below => exact childDone_turned free frames taken

theorem trackerStep_turned {player : Player} {stage : Stage σ ω} {id : NodeId} {turn : Turn σ ω}
    (free : player.waiting = none) (taken : player.trackerStep stage id = some turn) :
    player.Turned stage (.trackerStep id) turn := by
  unfold trackerStep at taken
  split at taken
  next payload kind =>
    have tracker : player.act.tracker? id = some payload := by
      simp only [Act.tracker?, kind]
    split at taken
    next due =>
      simp only [goOn, Option.some.injEq] at taken
      subst taken
      exact .goesOn (.childless tracker due) (player.continues_at _ _ _) free rfl
        (.warn stage rfl rfl)
    next child due =>
      split at taken
      next absent =>
        simp only [goOn, Option.some.injEq] at taken
        subst taken
        exact .goesOn (.missing tracker due (by simpa using absent))
          (player.continues_at _ _ _) free rfl (.warn stage rfl rfl)
      next present =>
        have node : player.act.hasNode child = true := by simpa using present
        split at taken
        next busy =>
          simp only [goOn, Option.some.injEq] at taken
          subst taken
          exact .goesOn (.busy tracker due node (by simpa using busy))
            (player.continues_at _ _ _) free rfl (.warn stage rfl rfl)
        next idle =>
          simp only [goOn, Option.some.injEq] at taken
          subst taken
          exact .goesOn (.child tracker due node (by simpa using idle))
            (player.continues_at _ _ _) free rfl (.silent stage rfl)
  next other =>
    simp only [goOn, Option.some.injEq] at taken
    subst taken
    refine .goesOn (.strayStep ?_) (player.continues_at _ _ _) free rfl (.silent stage rfl)
    unfold Act.tracker?
    split
    next payload kind => exact absurd kind (other _)
    next => rfl

theorem execute_turned {player : Player} {stage : Stage σ ω} {step : Step} {turn : Turn σ ω}
    (free : player.waiting = none) (taken : player.execute stage step = some turn) :
    player.Turned stage step turn := by
  cases step with
  | enter id => exact enter_turned free taken
  | complete route => exact complete_turned free taken
  | trackerStep id => exact trackerStep_turned free taken

end Player

end LightingDesk
