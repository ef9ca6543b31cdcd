import LightingDesk.Proofs.Playback.Moment

/-!
What players do on a stage, in the order in which they do it. What a step comes to depends on little of
the stage, and on nothing of the clock: `Player.execute_plan` says that it is one plan, carried out
alike on every stage that looks the same, whatever budget the player has.
-/

namespace LightingDesk

def Deed.event? : Deed → Option Event
  | .event told => some told
  | .write .. => none

def Deed.write? : Deed → Option (UInt16 × UInt8)
  | .event _ => none
  | .write channel value => some (channel, value)

section Record

variable {ω : Type} [Output ω]

/-- What a deed makes of the output. -/
def Deed.onOutput (output : ω) : Deed → ω
  | .event _ => output
  | .write channel value => Output.write output channel value

def Deed.onBus (bus : EventBus) : Deed → EventBus
  | .event told => bus.emit told
  | .write .. => bus

variable {σ : Type} [Scheduler σ]

/-- The stage when a player has done these deeds. -/
def Stage.record (stage : Stage σ ω) (player : PlayerId) (deeds : List Deed) : Stage σ ω :=
  { stage with
    output := deeds.foldl Deed.onOutput stage.output
    bus := deeds.foldl Deed.onBus stage.bus
    trace := stage.trace ++ (deeds.map (TraceEntry.mk stage.now player)).toArray }

variable (stage : Stage σ ω) (player : PlayerId)

@[simp]
theorem Stage.record_nil : stage.record player [] = stage := by simp [record]

theorem Stage.record_append (deeds more : List Deed) :
    stage.record player (deeds ++ more) = (stage.record player deeds).record player more := by
  simp only [record, List.foldl_append, List.map_append, ← List.append_toArray, ← Array.append_assoc]
  rfl

theorem Stage.emit_eq_record (event : Event) :
    stage.emit event = stage.record event.player [.event event] := by
  simp [record, emit, Deed.onOutput, Deed.onBus, now]

theorem Stage.write_eq_record (channel : UInt16) (value : UInt8) :
    stage.write player channel value = stage.record player [.write channel value] := by
  simp [record, write, Deed.onOutput, Deed.onBus, now]

theorem Stage.record_trace (deeds : List Deed) : (stage.record player deeds).trace.toList =
    stage.trace.toList ++ deeds.map (TraceEntry.mk stage.now player) := by
  simp [record]

theorem Stage.tells_record (deeds : List Deed) :
    stage.Tells (stage.record player deeds) (deeds.filterMap Deed.event?) := by
  refine ⟨_, stage.record_trace player deeds, ?_⟩
  rw [List.filterMap_map]
  rfl

theorem Stage.bus_record (deeds : List Deed) : (stage.record player deeds).bus =
    (deeds.filterMap Deed.event?).foldl EventBus.emit stage.bus := by
  change deeds.foldl Deed.onBus stage.bus = _
  rw [List.foldl_filterMap]
  congr 1
  funext bus deed
  cases deed with
  | event => rfl
  | write => rfl

/-- The writes of a scene, without those to muted fixtures. -/
def Stage.shown (muted : FixtureSet) : List (UInt16 × UInt8) → Stage σ ω → List Deed
  | [], _ => []
  | (channel, value) :: rest, stage =>
      if stage.isMuted muted channel then shown muted rest stage
      else .write channel value :: shown muted rest (stage.write player channel value)

theorem Stage.apply_eq_record (muted : FixtureSet) (levels : List (UInt16 × UInt8)) :
    apply player muted levels stage = stage.record player (shown player muted levels stage) := by
  induction levels generalizing stage with
  | nil => simp [apply, shown]
  | cons level rest ih =>
    rw [apply, shown, ih]
    split
    · rfl
    · rw [write_eq_record, ← record_append, List.singleton_append]

end Record

/-- What a player adds to the entering of a scene node: the writes of its scene, or a warning. -/
def Player.scenery {σ ω : Type} [Scheduler σ] [Output ω] (player : Player) (stage : Stage σ ω)
    (id : NodeId) (payload : ScenePayload) : List Deed :=
  if payload.scene.isEmpty then []
  else
    match stage.scenes.find? payload.scene with
    | some scene => Stage.shown player.id payload.mutedFixtures scene.levels stage
    | none => [.event (.warning player.id player.act.id (.missingScene id payload.scene))]

theorem Player.showScene_eq_record {σ ω : Type} [Scheduler σ] [Output ω] (player : Player)
    (stage : Stage σ ω) (id : NodeId) (payload : ScenePayload) :
    player.showScene stage id payload = stage.record player.id (player.scenery stage id payload) := by
  unfold showScene scenery
  split
  · rw [Stage.record_nil]
  · cases stage.scenes.find? payload.scene with
    | some scene => exact stage.apply_eq_record _ _ _
    | none => exact stage.emit_eq_record _

/-! ### Stages that look the same -/

/-- The act has a condition on a channel of the output. -/
def Act.ReadsLevels (act : Act) : Prop :=
  ∃ node ∈ act.nodes, ∃ payload channel, node.kind = .condition payload ∧
    payload.predicate.source = .dmx channel

/-- The relation holds between outputs on which scenes are muted alike, and writes keep it. -/
structure Output.Likeness {ω : Type} [Output ω] (alike : ω → ω → Prop) : Prop where
  refl : ∀ output, alike output output
  fixtureAt : ∀ {output other}, alike output other →
    Output.fixtureAt other = Output.fixtureAt output
  write : ∀ {output other} (channel : UInt16) (value : UInt8), alike output other →
    alike (Output.write output channel value) (Output.write other channel value)

/-- The relation holds between outputs that a player of the act cannot tell apart. -/
structure Act.Blurs {ω : Type} [Output ω] (act : Act) (alike : ω → ω → Prop) : Prop
    extends Output.Likeness alike where
  level? : act.ReadsLevels → ∀ {output other}, alike output other →
    Output.level? other = Output.level? output

theorem Output.likeness_eq {ω : Type} [Output ω] : Output.Likeness (Eq : ω → ω → Prop) where
  refl := fun _ => rfl
  fixtureAt := fun same => same ▸ rfl
  write := fun _ _ same => same ▸ rfl

theorem Act.blurs_eq {ω : Type} [Output ω] (act : Act) : act.Blurs (Eq : ω → ω → Prop) where
  toLikeness := Output.likeness_eq
  level? := fun _ _ _ same => same ▸ rfl

section Likeness

variable {σ τ ω : Type} [Scheduler σ] [Scheduler τ] [Output ω] {alike : ω → ω → Prop}
  {stage : Stage σ ω} {other : Stage τ ω}

theorem Output.Likeness.record {output seen : ω} (likeness : Output.Likeness alike)
    (same : alike output seen) (deeds : List Deed) :
    alike (deeds.foldl Deed.onOutput output) (deeds.foldl Deed.onOutput seen) := by
  induction deeds generalizing output seen with
  | nil => exact same
  | cons deed rest ih =>
    refine ih ?_
    cases deed with
    | event => exact same
    | write channel value => exact likeness.write channel value same

theorem Output.Likeness.shown (likeness : Output.Likeness alike)
    (same : alike stage.output other.output) (player : PlayerId) (muted : FixtureSet)
    (levels : List (UInt16 × UInt8)) :
    Stage.shown player muted levels other = Stage.shown player muted levels stage := by
  induction levels generalizing stage other with
  | nil => rfl
  | cons level rest ih =>
    have muting : other.isMuted muted level.1 = stage.isMuted muted level.1 := by
      rw [Stage.isMuted, Stage.isMuted, likeness.fixtureAt same]
    rw [Stage.shown, Stage.shown, muting]
    split
    · exact ih same
    · have after : alike (stage.write player level.1 level.2).output
          (other.write player level.1 level.2).output := likeness.write _ _ same
      rw [ih after]

theorem Output.Likeness.scenery (likeness : Output.Likeness alike)
    (same : alike stage.output other.output) (scenes : other.scenes = stage.scenes) (player : Player)
    (id : NodeId) (payload : ScenePayload) :
    player.scenery other id payload = player.scenery stage id payload := by
  unfold Player.scenery
  rw [scenes]
  split
  · rfl
  · cases stage.scenes.find? payload.scene with
    | some scene => exact likeness.shown same player.id payload.mutedFixtures scene.levels
    | none => rfl

end Likeness

/-- Two stages look the same to players. -/
structure Stage.Alike {σ τ ω : Type} [Scheduler σ] [Scheduler τ] (alike : ω → ω → Prop)
    (stage : Stage σ ω) (other : Stage τ ω) : Prop where
  now : other.now = stage.now
  scenes : other.scenes = stage.scenes
  signals : other.signals = stage.signals
  output : alike stage.output other.output

section Alike

variable {σ τ ω : Type} [Scheduler σ] [Scheduler τ] [Output ω] {act : Act} {alike : ω → ω → Prop}
  {stage : Stage σ ω} {other : Stage τ ω}

theorem Stage.Alike.record (same : stage.Alike alike other) (likeness : Output.Likeness alike)
    (player : PlayerId) (deeds : List Deed) :
    (stage.record player deeds).Alike alike (other.record player deeds) :=
  ⟨same.now, same.scenes, same.signals, likeness.record same.output deeds⟩

theorem Stage.Alike.test {node : ActNode} {payload : ConditionPayload} (same : stage.Alike alike other)
    (blurs : act.Blurs alike) (listed : node ∈ act.nodes) (kind : node.kind = .condition payload)
    (player : Player) : player.test other payload.predicate = player.test stage payload.predicate := by
  have sampled (elapsed : Nat) : other.sample elapsed payload.predicate.source =
      stage.sample elapsed payload.predicate.source := by
    cases source : payload.predicate.source with
    | dmx channel =>
      simp only [Stage.sample, same.signals]
      rw [blurs.level? ⟨node, listed, payload, channel, kind, source⟩ same.output]
    | time => rfl
    | midi channel controller => simp only [Stage.sample, same.signals]
    | osc address => simp only [Stage.sample, same.signals]
  rw [Player.test, Player.test, same.now, sampled]

end Alike

/-! ### Plans of steps -/

/-- How a step ends: with the step that follows at once, with a wait, or with nothing to follow. -/
inductive Outlook where
  | goesOn (next : Step)
  | waits (delay : Nat) (resume : Step) (curve : Option Curve)
  | rests

/-- What a step comes to, apart from the clock. -/
structure Plan where
  deeds : List Deed
  later : Player
  outlook : Outlook

/-- What a player is allowed at one instant, and how much of it is spent. -/
structure Grant where
  settings : EngineSettings
  since : Nat
  spent : Nat

def Player.granted (player : Player) (grant : Grant) : Player :=
  { player with settings := grant.settings, burstAt := grant.since, burstSteps := grant.spent }

section Granted

variable (player : Player) (grant : Grant)

@[simp]
theorem Player.granted_act : (player.granted grant).act = player.act := rfl

@[simp]
theorem Player.granted_frames : (player.granted grant).frames = player.frames := rfl

@[simp]
theorem Player.granted_waiting : (player.granted grant).waiting = player.waiting := rfl

@[simp]
theorem Player.granted_memory : (player.granted grant).memory = player.memory := rfl

@[simp]
theorem Player.granted_generator : (player.granted grant).generator = player.generator := rfl

end Granted

def Player.grant (player : Player) : Grant := ⟨player.settings, player.burstAt, player.burstSteps⟩

def Plan.granted (plan : Plan) (grant : Grant) : Plan :=
  { plan with later := plan.later.granted grant }

/-- The turn of a player who comes to an outlook. -/
def Outlook.turn {σ ω : Type} [Scheduler σ] (outlook : Outlook) (player : Player) (stage : Stage σ ω) :
    Option (Player.Turn σ ω) :=
  match outlook with
  | .goesOn next => player.goOn stage next
  | .waits delay resume curve => Player.pause (player.arm stage delay resume curve)
  | .rests => Player.pause (some (player, stage))

/-- The step taken on a stage as planned. -/
def Plan.enact {σ ω : Type} [Scheduler σ] [Output ω] (plan : Plan) (stage : Stage σ ω) :
    Option (Player.Turn σ ω) :=
  plan.outlook.turn plan.later (stage.record plan.later.id plan.deeds)

/-- An event that tells neither of an entered node nor of a missing scene. -/
def Event.IsAside (id : PlayerId) (act : ActId) : Event → Prop
  | .nodeEntered .. => False
  | .warning player owner fault =>
      player = id ∧ owner = act ∧ ∀ node scene, fault ≠ .missingScene node scene
  | .stopped player owner _ => player = id ∧ owner = act

/-- What a player does when it enters a node. -/
def Player.entry {σ ω : Type} [Scheduler σ] [Output ω] (player : Player) (stage : Stage σ ω)
    (id : NodeId) (kind : NodeKind) : List Deed :=
  .event (.nodeEntered player.id player.act.id id) ::
    match kind with
    | .scene payload => player.scenery stage id payload
    | _ => []

/-- What a player may do in one step. -/
inductive Player.Does {σ ω : Type} [Scheduler σ] [Output ω] (player : Player) (stage : Stage σ ω) :
    Step → List Deed → Prop where
  | enters {id node} (found : player.act.node? id = some node) :
      Does player stage (.enter id) (player.entry stage id node.kind)
  | tells {step} (events : List Event)
      (aside : ∀ event ∈ events, event.IsAside player.id player.act.id) :
      Does player stage step (events.map .event)

/-- The plan is one for the player. -/
structure Plan.Suits (plan : Plan) (player : Player) : Prop where
  id : plan.later.id = player.id
  act : plan.later.act = player.act
  free : plan.later.waiting = none

namespace Player

section Plans

variable {σ ω : Type} [Scheduler σ] [Output ω] {alike : ω → ω → Prop} {player : Player}
  {stage : Stage σ ω} {step : Step}

/-- The answers that a player gets in a step are as planned. -/
def Foresees (alike : ω → ω → Prop) (player : Player) (stage : Stage σ ω) (step : Step)
    (answer : ∀ {τ : Type} [Scheduler τ], Player → Stage τ ω → Option (Turn τ ω)) : Prop :=
  ∃ plan : Plan, plan.Suits player ∧ player.Does stage step plan.deeds ∧
    ∀ {τ : Type} [Scheduler τ] (other : Stage τ ω) (grant : Grant), stage.Alike alike other →
      answer (player.granted grant) other = (plan.granted grant).enact other

theorem Foresees.congr {answer given : ∀ {τ : Type} [Scheduler τ], Player → Stage τ ω →
    Option (Turn τ ω)} (foresees : player.Foresees alike stage step given)
    (same : ∀ {τ : Type} [Scheduler τ] (other : Stage τ ω) (grant : Grant), stage.Alike alike other →
      answer (player.granted grant) other = given (player.granted grant) other) :
    player.Foresees alike stage step answer := by
  obtain ⟨plan, suits, does, answers⟩ := foresees
  exact ⟨plan, suits, does, fun other grant looks =>
    (same other grant looks).trans (answers other grant looks)⟩

/-- A step that does nothing but report these events. -/
theorem foresees_tell (player moved : Player) (outlook : Outlook) (id : moved.id = player.id)
    (act : moved.act = player.act) (free : moved.waiting = none) (events : List Event)
    (aside : ∀ event ∈ events, event.IsAside player.id player.act.id) :
    player.Foresees alike stage step fun current other =>
      Plan.enact ⟨events.map .event, moved.granted current.grant, outlook⟩ other :=
  ⟨⟨events.map .event, moved, outlook⟩, ⟨id, act, free⟩, .tells events aside, fun _ _ _ => rfl⟩

theorem foresees_finish (player moved : Player) (id : moved.id = player.id) (act : moved.act = player.act)
    (free : moved.waiting = none) (reason : StopReason) :
    player.Foresees alike stage step fun current other =>
      pause (some ((moved.granted current.grant).finish other reason)) := by
  refine (foresees_tell player moved.ended .rests id act rfl
    [.stopped moved.id moved.act.id reason] (by simp [Event.IsAside, id, act])).congr ?_
  intro τ _ other grant _
  rw [finish_eq _ other reason (show (moved.granted _).waiting = none from free),
    Stage.emit_eq_record]
  rfl

theorem foresees_silent (player moved : Player) (outlook : Outlook) (id : moved.id = player.id)
    (act : moved.act = player.act) (free : moved.waiting = none) :
    player.Foresees alike stage step fun current other =>
      outlook.turn (moved.granted current.grant) other := by
  refine (foresees_tell player moved outlook id act free [] (by simp)).congr ?_
  intro τ _ other grant _
  rw [Plan.enact, List.map_nil, Stage.record_nil]

theorem foresees_warn (player moved : Player) (next : Step) (id : moved.id = player.id)
    (act : moved.act = player.act) (free : moved.waiting = none) (fault : Fault)
    (known : ∀ node scene, fault ≠ .missingScene node scene) :
    player.Foresees alike stage step fun current other =>
      goOn (moved.granted current.grant) (current.warn other fault) next := by
  refine (foresees_tell player moved (.goesOn next) id act free
    [.warning player.id player.act.id fault] (by simp [Event.IsAside, known])).congr ?_
  intro τ _ other grant _
  rw [warn, Stage.emit_eq_record, Plan.enact, show (moved.granted _).id = player.id from id]
  rfl

theorem foresees_follow (player moved : Player) (id : moved.id = player.id) (act : moved.act = player.act)
    (free : moved.waiting = none) (done : NodeId) (route : Route) :
    player.Foresees alike stage step fun current other =>
      (moved.granted current.grant).follow other done route := by
  have along (chosen : ∀ branch, route ≠ .noMatch branch) :
      player.Foresees alike stage step fun current other =>
        (moved.granted current.grant).follow other done route := by
    cases leads : route.connection? moved.act done with
    | none =>
      refine (foresees_finish player moved id act free .completed).congr fun other grant _ => ?_
      unfold follow
      split
      next branch => exact absurd rfl (chosen branch)
      next => simp only [granted_act, leads]
    | some edge =>
      cases found : moved.act.target? edge with
      | none =>
        refine (foresees_finish player moved id act free
          (.fault (.danglingEdge edge.id done edge.target))).congr fun other grant _ => ?_
        unfold follow
        split
        next branch => exact absurd rfl (chosen branch)
        next => simp only [granted_act, leads, found]
      | some target =>
        refine (foresees_silent player moved (.goesOn (.enter target.id)) id act free).congr
          fun other grant _ => ?_
        unfold follow
        split
        next branch => exact absurd rfl (chosen branch)
        next =>
          simp only [granted_act, leads, found]
          rfl
  cases route with
  | noMatch branch => exact foresees_finish player moved id act free _
  | first => exact along (by simp)
  | along => exact along (by simp)

theorem foresees_childDone (player moved : Player) (id : moved.id = player.id) (act : moved.act = player.act)
    (free : moved.waiting = none) (parent : NodeId) :
    player.Foresees alike stage step fun current other =>
      (moved.granted current.grant).childDone other parent := by
  have done : player.Foresees alike stage step fun current other =>
      goOn (moved.granted current.grant) other (.complete .first) :=
    foresees_silent player moved (.goesOn (.complete .first)) id act free
  by_cases tracker : ∃ payload, (moved.act.node? parent).map ActNode.kind = some (.tracker payload)
  · obtain ⟨payload, kind⟩ := tracker
    by_cases empty : payload.children.isEmpty = true
    · refine done.congr fun other grant _ => ?_
      simp only [childDone, granted_act, kind, if_pos empty]
    · cases advanced : payload.mode.advance payload.children.length
        (moved.memory.position parent payload) moved.generator with
      | mk move generator =>
        cases move with
        | finished =>
          refine (foresees_silent player { moved with
            generator, memory := moved.memory.forget parent } (.goesOn (.complete .first))
            id act free).congr fun other grant _ => ?_
          simp only [childDone, granted_act, kind, if_neg empty, granted_memory, granted_generator,
            advanced]
          rfl
        | «to» position =>
          refine (foresees_silent player { moved with
            generator, memory := moved.memory.store parent position }
            (.waits (Span.ofMilliseconds payload.stepDelayMs.toNat) (.trackerStep parent) none)
            id act free).congr fun other grant _ => ?_
          simp only [childDone, granted_act, kind, if_neg empty, granted_memory, granted_generator,
            advanced]
          rfl
  · refine done.congr fun other grant _ => ?_
    unfold childDone
    split
    next payload kind => exact absurd ⟨payload, kind⟩ tracker
    next => rfl

theorem foresees_trackerStep (free : player.waiting = none) (id : NodeId) :
    player.Foresees alike stage step fun current other => current.trackerStep other id := by
  by_cases tracker : ∃ payload, (player.act.node? id).map ActNode.kind = some (.tracker payload)
  · obtain ⟨payload, kind⟩ := tracker
    cases due : payload.children[(player.memory.position id payload).index]? with
    | none =>
      refine (foresees_warn player player (.complete .first) rfl rfl free (.emptyTracker id)
        (by simp)).congr fun other grant _ => ?_
      simp only [trackerStep, granted_act, kind, granted_memory, due]
      rfl
    | some child =>
      cases present : player.act.hasNode child with
      | false =>
        refine (foresees_warn player { player with memory := player.memory.forget id }
          (.complete .first) rfl rfl free (.missingTrackerChild id child) (by simp)).congr
          fun other grant _ => ?_
        simp only [trackerStep, granted_act, kind, granted_memory, due, present]
        rfl
      | true =>
        cases busy : player.frames.contains child with
        | true =>
          refine (foresees_warn player player (.complete .first) rfl rfl free (.trackerCycle id child)
            (by simp)).congr fun other grant _ => ?_
          simp only [trackerStep, granted_act, kind, granted_memory, due, present, granted_frames, busy]
          rfl
        | false =>
          refine (foresees_silent player player (.goesOn (.enter child)) rfl rfl free).congr
            fun other grant _ => ?_
          simp only [trackerStep, granted_act, kind, granted_memory, due, present, granted_frames, busy]
          rfl
  · refine (foresees_silent player player (.goesOn (.complete .first)) rfl rfl free).congr
      fun other grant _ => ?_
    unfold trackerStep
    split
    next payload kind => exact absurd ⟨payload, kind⟩ tracker
    next => rfl

theorem foresees_complete (free : player.waiting = none) (route : Route) :
    player.Foresees alike stage step fun current other => current.complete other route := by
  cases frames : player.frames with
  | nil =>
    refine (foresees_silent player player .rests rfl rfl free).congr fun other grant _ => ?_
    simp only [complete, granted_frames, frames]
    rfl
  | cons done below =>
    cases below with
    | nil =>
      refine (foresees_follow player { player with frames := [] } rfl rfl free
        done route).congr fun other grant _ => ?_
      simp only [complete, granted_frames, frames]
      rfl
    | cons parent below =>
      refine (foresees_childDone player { player with frames := parent :: below }
        rfl rfl free parent).congr fun other grant _ => ?_
      simp only [complete, granted_frames, frames]
      rfl

theorem foresees_enter (free : player.waiting = none) (blurs : player.act.Blurs alike) (id : NodeId) :
    player.Foresees alike stage (.enter id) fun current other => current.enter other id := by
  cases found : player.act.node? id with
  | none =>
    refine (foresees_finish player player rfl rfl free .completed).congr fun other grant _ => ?_
    simp only [enter, granted_act, found]
    rfl
  | some node =>
    let moved := { player with
      frames := id :: player.frames
      maxDepth := max player.maxDepth (id :: player.frames).length }
    have enters (outlook : Outlook) : player.Foresees alike stage (.enter id) fun current other =>
        outlook.turn (moved.granted current.grant)
          (other.record player.id (player.entry stage id node.kind)) :=
      ⟨⟨player.entry stage id node.kind, moved, outlook⟩, ⟨rfl, rfl, free⟩, .enters found,
        fun _ _ _ => rfl⟩
    cases kind : node.kind with
    | wait payload =>
      refine (enters (.waits (delayOf payload.durationMs) (.complete .first) none)).congr
        fun other grant _ => ?_
      simp only [enter, granted_act, found, kind, Stage.emit_eq_record, entry]
      rfl
    | transition payload =>
      refine (enters (.waits (delayOf payload.durationMs) (.complete .first)
        (some payload.curve))).congr fun other grant _ => ?_
      simp only [enter, granted_act, found, kind, Stage.emit_eq_record, entry]
      rfl
    | tracker payload =>
      refine (enters (.goesOn (.trackerStep id))).congr fun other grant _ => ?_
      simp only [enter, granted_act, found, kind, Stage.emit_eq_record, entry]
      rfl
    | condition payload =>
      refine (enters (.goesOn (.complete (.ofOutcome player.act id
        (player.test stage payload.predicate))))).congr fun other grant looks => ?_
      have listed : node ∈ player.act.nodes := List.mem_of_find?_eq_some found
      have tested := looks.test blurs listed kind player
      simp only [enter, granted_act, found, kind, Stage.emit_eq_record, entry]
      rw [← tested]
      rfl
    | scene payload =>
      refine (enters (.goesOn (.complete .first))).congr fun other grant looks => ?_
      let entered : Deed := .event (.nodeEntered player.id player.act.id id)
      have after : alike stage.output (other.record player.id [entered]).output := looks.output
      have split : other.record player.id (player.entry stage id (.scene payload)) =
          (other.record player.id [entered]).record player.id
            (player.scenery (other.record player.id [entered]) id payload) := by
        rw [blurs.scenery after looks.scenes, ← Stage.record_append]
        rfl
      simp only [enter, granted_act, found, kind, Stage.emit_eq_record, showScene_eq_record, split]
      rfl

/-- What comes of a step is one plan, on all stages that look the same and with any budget. -/
theorem execute_plan (player : Player) (free : player.waiting = none) (blurs : player.act.Blurs alike)
    (stage : Stage σ ω) (step : Step) :
    player.Foresees alike stage step fun current other => current.execute other step := by
  cases step with
  | enter id => exact foresees_enter free blurs id
  | complete route => exact foresees_complete free route
  | trackerStep id => exact foresees_trackerStep free id

end Plans

end Player

end LightingDesk
