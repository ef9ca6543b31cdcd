import LightingDesk.Proofs.Playback.Moment

/-!
What earlier playbacks leave behind in a player: numbers that tell how many there were, and a generator
that has been drawn from. A player with such a legacy takes the same steps as without, and so do all calls
of it (`Legacy.start_ofStage`, `Legacy.onTimer_ofStage`).
-/

namespace LightingDesk

/-- No tracker of the act has more than one child to draw from. -/
def Act.IsPredictable (act : Act) : Prop :=
  ∀ node ∈ act.nodes, ∀ payload, node.kind = .tracker payload → payload.mode = .random →
    payload.children.length ≤ 1

/-- A generator that goes on from an old one, whatever it has been asked for since. -/
def Generator.resumed (old since : Generator) : Generator := ⟨old.draws, since.asked ++ old.asked⟩

/-- What each player has of its earlier playbacks: how often it had started or ended, how many steps it
had taken and how deep it had come, and the generator that they left, if it is not a fresh one. -/
structure Legacy where
  generations : PlayerId → Nat
  steps : PlayerId → Nat
  depth : PlayerId → Nat
  generator? : PlayerId → Option Generator

namespace Legacy

variable {ω : Type} (legacy : Legacy)

def ofToken (token : Token) : Token :=
  { token with generation := token.generation + legacy.generations token.player }

def ofTimer (timer : Timer) : Timer := { timer with token := legacy.ofToken timer.token }

def ofClock (clock : TimerQueue) : TimerQueue :=
  { clock with pending := clock.pending.map legacy.ofTimer }

def ofStage (stage : Stage TimerQueue ω) : Stage TimerQueue ω :=
  { stage with clock := legacy.ofClock stage.clock }

def ofGenerator (id : PlayerId) (generator : Generator) : Generator :=
  match legacy.generator? id with
  | none => generator
  | some old => old.resumed generator

/-- The player as it would be with its legacy. -/
def ofPlayer (player : Player) : Player :=
  { player with
    generator := legacy.ofGenerator player.id player.generator
    generation := player.generation + legacy.generations player.id
    maxDepth := max (legacy.depth player.id) player.maxDepth
    steps := player.steps + legacy.steps player.id }

def ofMove : Player × Stage TimerQueue ω → Player × Stage TimerQueue ω
  | (player, stage) => (legacy.ofPlayer player, legacy.ofStage stage)

def ofTurn : Player.Turn TimerQueue ω → Player.Turn TimerQueue ω
  | (player, stage, next) => (legacy.ofPlayer player, legacy.ofStage stage, next)

@[simp] theorem id_ofPlayer (player : Player) : (legacy.ofPlayer player).id = player.id := rfl

@[simp] theorem act_ofPlayer (player : Player) : (legacy.ofPlayer player).act = player.act := rfl

@[simp] theorem playing_ofPlayer (player : Player) :
    (legacy.ofPlayer player).playing = player.playing := rfl

@[simp] theorem frames_ofPlayer (player : Player) : (legacy.ofPlayer player).frames = player.frames := rfl

@[simp] theorem waiting_ofPlayer (player : Player) :
    (legacy.ofPlayer player).waiting = player.waiting := rfl

@[simp] theorem memory_ofPlayer (player : Player) : (legacy.ofPlayer player).memory = player.memory := rfl

@[simp] theorem generator_ofPlayer (player : Player) :
    (legacy.ofPlayer player).generator = legacy.ofGenerator player.id player.generator := rfl

@[simp] theorem token_ofPlayer (player : Player) :
    (legacy.ofPlayer player).token = legacy.ofToken player.token := rfl

/-- A legacy does not show in a player unless its act draws from more than one child. -/
def Suits (player : Player) : Prop := legacy.generator? player.id = none ∨ player.act.IsPredictable

/-! ### Generators -/

/-- A generator with a legacy draws other numbers, but it moves on like one without. -/
theorem below_ofGenerator (id : PlayerId) (generator : Generator) (bound : Nat) :
    ((legacy.ofGenerator id generator).below bound).2 =
      legacy.ofGenerator id (generator.below bound).2 := by
  unfold ofGenerator
  cases legacy.generator? id with
  | none => rfl
  | some old => rfl

theorem ofGenerator_of_eq_none {id : PlayerId} (none : legacy.generator? id = none)
    (generator : Generator) : legacy.ofGenerator id generator = generator := by
  rw [ofGenerator, none]

/-- What a tracker does next does not depend on the legacy of its player. -/
theorem advance_ofGenerator {id : PlayerId} {mode : TrackerMode} {count : Nat} (positive : 0 < count)
    (suits : legacy.generator? id = none ∨ (mode = .random → count ≤ 1)) (position : TrackerPosition)
    (generator : Generator) :
    mode.advance count position (legacy.ofGenerator id generator) =
      ((mode.advance count position generator).1,
        legacy.ofGenerator id (mode.advance count position generator).2) := by
  rcases suits with none | few
  · rw [legacy.ofGenerator_of_eq_none none, legacy.ofGenerator_of_eq_none none]
  · unfold TrackerMode.advance
    cases mode with
    | bounce | pingPong => rfl
    | once =>
      dsimp only
      split <;> rfl
    | random =>
      obtain rfl : count = 1 := by
        have := few rfl
        omega
      dsimp only
      rw [below_ofGenerator]
      simp only [Generator.below, Nat.mod_one]

/-! ### Clocks -/

theorem place_ofTimer (timer : Timer) (timers : List Timer) :
    TimerQueue.place (legacy.ofTimer timer) (timers.map legacy.ofTimer) =
      (TimerQueue.place timer timers).map legacy.ofTimer := by
  induction timers with
  | nil => rfl
  | cons first rest ih =>
    rw [List.map_cons, TimerQueue.place, TimerQueue.place]
    change (if first.deadline ≤ timer.deadline then _ else _) = _
    split
    · rw [List.map_cons, ih]
    · rfl

theorem arm?_ofClock (clock : TimerQueue) (delay : Nat) (token : Token) (yielded : Bool) :
    (legacy.ofClock clock).arm? delay (legacy.ofToken token) yielded =
      (clock.arm? delay token yielded).map (Prod.map id legacy.ofClock) := by
  unfold TimerQueue.arm?
  change (Span.after? clock.now delay).map _ = _
  cases Span.after? clock.now delay with
  | none => rfl
  | some deadline =>
    have placed := legacy.place_ofTimer ⟨deadline, clock.nextHandle, token, yielded⟩ clock.pending
    simp only [Option.map_some, Prod.map_apply, id_eq, ofClock, ← placed]
    rfl

theorem cancel_ofClock (clock : TimerQueue) (handle : Nat) :
    (legacy.ofClock clock).cancel handle = legacy.ofClock (clock.cancel handle) := by
  unfold TimerQueue.cancel ofClock
  rw [List.eraseP_map]
  rfl

theorem takeDue_ofTimer (window : Window) (timers : List Timer) :
    TimerQueue.takeDue window (timers.map legacy.ofTimer) =
      (TimerQueue.takeDue window timers).map (Prod.map legacy.ofTimer (List.map legacy.ofTimer)) := by
  induction timers with
  | nil => rfl
  | cons first rest ih =>
    rw [List.map_cons, TimerQueue.takeDue, TimerQueue.takeDue, ih]
    change (if window.limit < first.deadline then _ else if first.mayFire window then _ else _) = _
    split
    · rfl
    · split
      · rfl
      · rw [Option.map_map, Option.map_map]
        rfl

theorem pop?_ofClock (clock : TimerQueue) (window : Window) :
    (legacy.ofClock clock).pop? window =
      (clock.pop? window).map (Prod.map legacy.ofToken legacy.ofClock) := by
  unfold TimerQueue.pop?
  rw [ofClock, takeDue_ofTimer, Option.map_map, Option.map_map]
  rfl

theorem nextDeadline?_ofClock (clock : TimerQueue) :
    (legacy.ofClock clock).nextDeadline? = clock.nextDeadline? := by
  rw [TimerQueue.nextDeadline?, ofClock, List.head?_map, Option.map_map]
  rfl

/-- A legacy tells the tokens of a player apart just as its generation does. -/
theorem ofToken_eq_iff (first second : Token) :
    legacy.ofToken first = legacy.ofToken second ↔ first = second := by
  constructor
  · intro same
    obtain ⟨player, generation⟩ := first
    obtain ⟨other, later⟩ := second
    simp only [ofToken, Token.mk.injEq] at same ⊢
    obtain ⟨rfl, generations⟩ := same
    exact ⟨rfl, Nat.add_right_cancel generations⟩
  · exact congrArg _

/-! ### Steps -/

section Steps

variable (player : Player) (stage : Stage TimerQueue ω)

theorem pause_ofMove (moved : Option (Player × Stage TimerQueue ω)) :
    Player.pause (moved.map legacy.ofMove) = (Player.pause moved).map legacy.ofTurn := by
  cases moved with
  | none => rfl
  | some moved => rfl

theorem finish_ofStage (reason : StopReason) :
    (legacy.ofPlayer player).finish (legacy.ofStage stage) reason =
      legacy.ofMove (player.finish stage reason) := by
  have ended : { legacy.ofPlayer player with
        playing := false, generation := (legacy.ofPlayer player).generation + 1, waiting := none
        frames := [] } =
      legacy.ofPlayer { player with
        playing := false, generation := player.generation + 1, waiting := none, frames := [] } := by
    simp only [ofPlayer, Nat.add_right_comm]
  unfold Player.finish
  rw [ended]
  simp only [waiting_ofPlayer]
  cases player.waiting with
  | none => rfl
  | some wait =>
    have cancelled := legacy.cancel_ofClock stage.clock wait.handle
    exact congrArg (fun clock => (_, ((legacy.ofStage stage).withClock clock).emit _)) cancelled

theorem finished_ofStage (reason : StopReason) :
    Player.pause (some ((legacy.ofPlayer player).finish (legacy.ofStage stage) reason)) =
      (Player.pause (some (player.finish stage reason))).map legacy.ofTurn := by
  rw [← pause_ofMove, Option.map_some, finish_ofStage]

theorem stop_ofStage : (legacy.ofPlayer player).stop (legacy.ofStage stage) =
    legacy.ofMove (player.stop stage) := by
  rw [Player.stop, Player.stop, playing_ofPlayer]
  split
  next => exact legacy.finish_ofStage player stage .stoppedByUser
  next => rfl

theorem await_ofStage (wait : Wait) :
    (legacy.ofPlayer player).await (legacy.ofStage stage) wait =
      legacy.ofMove (player.await stage wait) := by
  unfold Player.await
  simp only [waiting_ofPlayer]
  cases player.waiting with
  | none => rfl
  | some previous =>
    have cancelled := legacy.cancel_ofClock stage.clock previous.handle
    exact congrArg (fun clock => (_, (legacy.ofStage stage).withClock clock)) cancelled

theorem arm_ofStage (delay : Nat) (resume : Step) (curve : Option Curve) :
    (legacy.ofPlayer player).arm (legacy.ofStage stage) delay resume curve =
      (player.arm stage delay resume curve).map legacy.ofMove := by
  have armed := legacy.arm?_ofClock stage.clock delay player.token false
  unfold Player.arm
  change ((legacy.ofClock stage.clock).arm? delay (legacy.ofToken player.token) false >>= _) =
    (stage.clock.arm? delay player.token false >>= _).map _
  rw [armed]
  cases stage.clock.arm? delay player.token false with
  | none => rfl
  | some pair => exact congrArg some (legacy.await_ofStage player (stage.withClock pair.2) _)

theorem armYield_ofStage (resume : Step) :
    (legacy.ofPlayer player).armYield (legacy.ofStage stage) resume =
      (player.armYield stage resume).map legacy.ofMove := by
  have armed := legacy.arm?_ofClock stage.clock 0 player.token true
  unfold Player.armYield
  change ((legacy.ofClock stage.clock).arm? 0 (legacy.ofToken player.token) true >>= _) =
    (stage.clock.arm? 0 player.token true >>= _).map _
  rw [armed]
  cases stage.clock.arm? 0 player.token true with
  | none => rfl
  | some pair => exact congrArg some (legacy.await_ofStage player (stage.withClock pair.2) _)

theorem armed_ofStage (delay : Nat) (resume : Step) (curve : Option Curve) :
    Player.pause ((legacy.ofPlayer player).arm (legacy.ofStage stage) delay resume curve) =
      (Player.pause (player.arm stage delay resume curve)).map legacy.ofTurn := by
  rw [← pause_ofMove, arm_ofStage]

theorem childDone_ofStage (id : NodeId) (suits : legacy.Suits player) :
    (legacy.ofPlayer player).childDone (legacy.ofStage stage) id =
      (player.childDone stage id).map legacy.ofTurn := by
  unfold Player.childDone
  simp only [act_ofPlayer, memory_ofPlayer, generator_ofPlayer]
  split
  next payload kind =>
    split
    next => rfl
    next children =>
      have few : legacy.generator? player.id = none ∨
          (payload.mode = .random → payload.children.length ≤ 1) := by
        refine suits.imp_right fun predictable random => ?_
        obtain ⟨node, found, tracker⟩ := Option.map_eq_some_iff.1 kind
        exact predictable node (List.mem_of_find?_eq_some found) payload tracker random
      have positive : 0 < payload.children.length := by
        rw [List.length_pos_iff]
        simpa using children
      rw [legacy.advance_ofGenerator positive few]
      dsimp only
      split
      next => rfl
      next position moves =>
        exact legacy.armed_ofStage
          { player with
            generator := (payload.mode.advance payload.children.length
              (player.memory.position id payload) player.generator).2
            memory := player.memory.store id position } stage _ _ none
  next => rfl

theorem follow_ofStage (done : NodeId) (route : Route) :
    (legacy.ofPlayer player).follow (legacy.ofStage stage) done route =
      (player.follow stage done route).map legacy.ofTurn := by
  unfold Player.follow
  simp only [act_ofPlayer]
  split
  next => exact legacy.finished_ofStage player stage _
  next =>
    split
    next => exact legacy.finished_ofStage player stage _
    next =>
      split
      next => rfl
      next => exact legacy.finished_ofStage player stage _

theorem complete_ofStage (route : Route) (suits : legacy.Suits player) :
    (legacy.ofPlayer player).complete (legacy.ofStage stage) route =
      (player.complete stage route).map legacy.ofTurn := by
  unfold Player.complete
  simp only [frames_ofPlayer]
  split
  next => rfl
  next done below frames =>
    cases below with
    | nil => exact legacy.follow_ofStage { player with frames := [] } stage done route
    | cons tracker rest =>
      exact legacy.childDone_ofStage { player with frames := tracker :: rest } stage tracker suits

theorem trackerStep_ofStage (id : NodeId) :
    (legacy.ofPlayer player).trackerStep (legacy.ofStage stage) id =
      (player.trackerStep stage id).map legacy.ofTurn := by
  rw [Player.trackerStep, Player.trackerStep, act_ofPlayer, memory_ofPlayer, frames_ofPlayer]
  split
  next =>
    split
    next => rfl
    next =>
      split
      next => rfl
      next =>
        split
        next => rfl
        next => rfl
  next => rfl

variable [Output ω]

theorem apply_ofStage (id : PlayerId) (muted : FixtureSet) (levels : List (UInt16 × UInt8)) :
    Stage.apply id muted levels (legacy.ofStage stage) =
      legacy.ofStage (Stage.apply id muted levels stage) := by
  induction levels generalizing stage with
  | nil => rfl
  | cons level rest ih =>
    rw [Stage.apply, Stage.apply, ← ih]
    congr 1
    rw [show (legacy.ofStage stage).isMuted muted level.1 = stage.isMuted muted level.1 from rfl]
    split
    next => rfl
    next => rfl

theorem showScene_ofStage (node : NodeId) (payload : ScenePayload) :
    (legacy.ofPlayer player).showScene (legacy.ofStage stage) node payload =
      legacy.ofStage (player.showScene stage node payload) := by
  unfold Player.showScene
  split
  next => rfl
  next =>
    rw [show (legacy.ofStage stage).scenes = stage.scenes from rfl]
    split
    next => exact legacy.apply_ofStage stage _ _ _
    next => rfl

theorem enter_ofStage (id : NodeId) :
    (legacy.ofPlayer player).enter (legacy.ofStage stage) id =
      (player.enter stage id).map legacy.ofTurn := by
  unfold Player.enter
  simp only [act_ofPlayer, frames_ofPlayer, id_ofPlayer]
  cases player.act.node? id with
  | none => exact legacy.finished_ofStage player stage .completed
  | some node =>
    let deeper := { player with
      frames := id :: player.frames
      maxDepth := max player.maxDepth (id :: player.frames).length }
    have deep : max (legacy.ofPlayer player).maxDepth (id :: player.frames).length =
        max (legacy.depth player.id) deeper.maxDepth := max_assoc _ _ _
    dsimp only
    rw [deep]
    cases node.kind with
    | scene payload =>
      exact congrArg (fun shown => Player.goOn (legacy.ofPlayer deeper) shown (.complete .first))
        (legacy.showScene_ofStage deeper (stage.emit (.nodeEntered player.id player.act.id id)) id
          payload)
    | wait payload =>
      exact legacy.armed_ofStage deeper (stage.emit (.nodeEntered player.id player.act.id id))
        (Player.delayOf payload.durationMs) (.complete .first) none
    | transition payload =>
      exact legacy.armed_ofStage deeper (stage.emit (.nodeEntered player.id player.act.id id))
        (Player.delayOf payload.durationMs) (.complete .first) (some payload.curve)
    | condition payload => rfl
    | tracker payload => rfl

theorem execute_ofStage (step : Step) (suits : legacy.Suits player) :
    (legacy.ofPlayer player).execute (legacy.ofStage stage) step =
      (player.execute stage step).map legacy.ofTurn := by
  cases step with
  | enter id => exact legacy.enter_ofStage player stage id
  | complete route => exact legacy.complete_ofStage player stage route suits
  | trackerStep id => exact legacy.trackerStep_ofStage player stage id

theorem run_ofStage (steps : Nat) (step : Step) (free : player.waiting = none)
    (suits : legacy.Suits player) :
    Player.run steps (legacy.ofPlayer player) (legacy.ofStage stage) step =
      (Player.run steps player stage step).map legacy.ofMove := by
  induction steps generalizing player stage step with
  | zero => exact legacy.armYield_ofStage player stage step
  | succ steps ih =>
    have counted : (legacy.ofPlayer player).counted = legacy.ofPlayer player.counted := by
      simp only [ofPlayer, Player.counted, Nat.add_right_comm]
    have same : (legacy.ofPlayer player).counted.execute (legacy.ofStage stage) step =
        (player.counted.execute stage step).map legacy.ofTurn :=
      counted ▸ legacy.execute_ofStage player.counted stage step suits
    rw [Player.counted, Player.counted] at same
    rw [Player.run, Player.run, same]
    cases taken : player.counted.execute stage step with
    | none => rw [← Player.counted, taken]; rfl
    | some turn =>
      obtain ⟨later, shown, next⟩ := turn
      rw [← Player.counted, taken]
      cases next with
      | none => rfl
      | some next =>
        have turned : player.counted.Turned stage step _ := Player.execute_turned free taken
        cases turned with
        | goesOn _ continues free =>
          refine ih later shown next free ?_
          rw [Suits, continues.id, continues.act]
          exact suits

omit [Output ω] in
theorem begun_ofStage : (legacy.ofPlayer player).begun (legacy.ofStage stage) =
    legacy.ofPlayer (player.begun stage) := by
  simp only [ofPlayer, Player.begun, Nat.add_right_comm]
  rfl

omit [Output ω] in
theorem burst_ofStage (fresh : Bool) : (legacy.ofPlayer player).burst (legacy.ofStage stage) fresh =
    legacy.ofPlayer (player.burst stage fresh) := by
  rw [Player.burst, Player.burst, apply_ite legacy.ofPlayer]
  rfl

theorem drive_ofStage (first : Step) (fresh : Bool) (free : player.waiting = none)
    (suits : legacy.Suits player) :
    (legacy.ofPlayer player).drive (legacy.ofStage stage) first fresh =
      (player.drive stage first fresh).map legacy.ofMove := by
  obtain ⟨burstAt, burstSteps, same⟩ := player.burst_eq stage fresh
  have driven (player : Player) (stage : Stage TimerQueue ω) : player.drive stage first fresh =
      Player.run ((player.burst stage fresh).settings.budget - (player.burst stage fresh).burstSteps)
        (player.burst stage fresh) stage first := rfl
  rw [driven, driven, burst_ofStage]
  exact legacy.run_ofStage (player.burst stage fresh) stage _ first (by rw [same]; exact free)
    (by rw [same]; exact suits)

theorem start_ofStage (free : (player.stop stage).1.waiting = none) (suits : legacy.Suits player) :
    (legacy.ofPlayer player).start (legacy.ofStage stage) =
      (player.start stage).map (Prod.map id legacy.ofMove) := by
  have suits : legacy.Suits (player.stop stage).1 := by
    rw [Suits, Player.stop_id, Player.stop_act]
    exact suits
  rw [Player.start_eq, Player.start_eq, stop_ofStage]
  generalize player.stop stage = stopped at free suits
  obtain ⟨stopped, shown⟩ := stopped
  dsimp only [ofMove, act_ofPlayer]
  cases stopped.act.startId? with
  | none => rfl
  | some node =>
    dsimp only
    rw [begun_ofStage, drive_ofStage legacy (stopped.begun shown) shown _ true free suits, Option.map_map,
      Option.map_map]
    rfl

theorem onTimer_ofStage (token : Token) (suits : legacy.Suits player) :
    (legacy.ofPlayer player).onTimer (legacy.ofStage stage) (legacy.ofToken token) =
      (player.onTimer stage token).map legacy.ofMove := by
  have stale : (legacy.ofToken token != (legacy.ofPlayer player).token) = (token != player.token) := by
    rw [token_ofPlayer, Bool.eq_iff_iff, bne_iff_ne, bne_iff_ne, Ne, ofToken_eq_iff]
  rw [Player.onTimer, Player.onTimer, stale, playing_ofPlayer, waiting_ofPlayer]
  split
  next => rfl
  next =>
    cases player.waiting with
    | none => rfl
    | some wait =>
      exact legacy.drive_ofStage { player with waiting := none } stage wait.resume wait.yielded rfl
        suits

end Steps

end Legacy

end LightingDesk
