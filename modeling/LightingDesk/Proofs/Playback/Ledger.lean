import LightingDesk.Proofs.Playback.Career

/-!
The tokens that a player hands to its clock. A clock may be given a ledger of them, and nothing else
changes: `Player.answer_erase`. So the ledger tells which tokens a call issues, whatever the clock is.
-/

namespace LightingDesk

/-- A clock, and the tokens of all timers that were ever armed on it. -/
structure Ledger (τ : Type) where
  clock : τ
  issued : List Token

namespace Ledger

variable {τ : Type}

def entered (ledger : Ledger τ) (token : Token) (answer : Option (Nat × τ)) :
    Option (Nat × Ledger τ) :=
  answer.map fun (handle, clock) => (handle, ⟨clock, ledger.issued ++ [token]⟩)

theorem issued_of_entered {ledger after : Ledger τ} {token : Token} {handle : Nat}
    {answer : Option (Nat × τ)} (entered : ledger.entered token answer = some (handle, after)) :
    after.issued = ledger.issued ++ [token] := by
  simp only [Ledger.entered, Option.map_eq_some_iff, Prod.mk.injEq] at entered
  obtain ⟨⟨handle, clock⟩, -, -, rfl⟩ := entered
  rfl

instance [Scheduler τ] : Scheduler (Ledger τ) where
  now ledger := Scheduler.now ledger.clock
  schedule ledger delay token := ledger.entered token (Scheduler.schedule ledger.clock delay token)
  scheduleYield ledger token := ledger.entered token (Scheduler.scheduleYield ledger.clock token)
  cancel ledger handle := { ledger with clock := Scheduler.cancel ledger.clock handle }

end Ledger

section Erasure

variable {τ ω : Type}

/-- The stage with a ledger of its clock that is still empty. -/
def Stage.ledgered (stage : Stage τ ω) : Stage (Ledger τ) ω :=
  { stage with clock := ⟨stage.clock, []⟩ }

/-- The stage without the ledger. -/
def Stage.erase (stage : Stage (Ledger τ) ω) : Stage τ ω := { stage with clock := stage.clock.clock }

theorem Stage.ledgered_erase (stage : Stage τ ω) : stage.ledgered.erase = stage := rfl

theorem Stage.apply_erase [Scheduler τ] [Output ω] (id : PlayerId) (muted : FixtureSet)
    (levels : List (UInt16 × UInt8)) (stage : Stage (Ledger τ) ω) :
    Stage.apply id muted levels stage.erase = (Stage.apply id muted levels stage).erase := by
  induction levels generalizing stage with
  | nil => rfl
  | cons level rest ih =>
    rw [Stage.apply, Stage.apply, ← ih]
    congr 1
    rw [show stage.erase.isMuted muted level.1 = stage.isMuted muted level.1 from rfl]
    split
    next => rfl
    next => rfl

namespace Player

/-- A player on the stage without the ledger. -/
def eraseMove : Player × Stage (Ledger τ) ω → Player × Stage τ ω
  | (player, stage) => (player, stage.erase)

/-- A turn on the stage without the ledger. -/
def Turn.erase : Turn (Ledger τ) ω → Turn τ ω
  | (player, stage, next) => (player, stage.erase, next)

theorem pause_erase (moved : Option (Player × Stage (Ledger τ) ω)) :
    pause (moved.map eraseMove) = (pause moved).map Turn.erase := by
  cases moved with
  | none => rfl
  | some moved => rfl

variable [Scheduler τ] (player : Player) (stage : Stage (Ledger τ) ω)

theorem finish_erase (reason : StopReason) :
    player.finish stage.erase reason = eraseMove (player.finish stage reason) := by
  unfold finish
  cases player.waiting with
  | none => rfl
  | some wait => rfl

theorem stop_erase : player.stop stage.erase = eraseMove (player.stop stage) := by
  unfold stop
  split
  next => exact player.finish_erase stage .stoppedByUser
  next => rfl

theorem finished_erase (reason : StopReason) : pause (some (player.finish stage.erase reason)) =
    (pause (some (player.finish stage reason))).map Turn.erase := by
  rw [← pause_erase, Option.map_some, finish_erase]

theorem await_erase (wait : Wait) :
    player.await stage.erase wait = eraseMove (player.await stage wait) := by
  unfold await
  cases player.waiting with
  | none => rfl
  | some previous => rfl

theorem arm_erase (delay : Nat) (resume : Step) (curve : Option Curve) :
    player.arm stage.erase delay resume curve =
      (player.arm stage delay resume curve).map eraseMove := by
  unfold arm
  rw [show Scheduler.schedule stage.clock delay player.token = stage.clock.entered player.token
    (Scheduler.schedule stage.erase.clock delay player.token) from rfl]
  cases Scheduler.schedule stage.erase.clock delay player.token with
  | none => rfl
  | some answer => exact congrArg some (player.await_erase (stage.withClock ⟨answer.2, _⟩) _)

theorem armYield_erase (resume : Step) :
    player.armYield stage.erase resume = (player.armYield stage resume).map eraseMove := by
  unfold armYield
  rw [show Scheduler.scheduleYield stage.clock player.token = stage.clock.entered player.token
    (Scheduler.scheduleYield stage.erase.clock player.token) from rfl]
  cases Scheduler.scheduleYield stage.erase.clock player.token with
  | none => rfl
  | some answer => exact congrArg some (player.await_erase (stage.withClock ⟨answer.2, _⟩) _)

theorem armed_erase (delay : Nat) (resume : Step) (curve : Option Curve) :
    pause (player.arm stage.erase delay resume curve) =
      (pause (player.arm stage delay resume curve)).map Turn.erase := by
  rw [← pause_erase, arm_erase]

theorem childDone_erase (id : NodeId) :
    player.childDone stage.erase id = (player.childDone stage id).map Turn.erase := by
  unfold childDone
  split
  next payload kind =>
    split
    next => rfl
    next =>
      dsimp only
      split
      next => rfl
      next position moves => exact armed_erase _ stage _ _ none
  next => rfl

theorem follow_erase (done : NodeId) (route : Route) :
    player.follow stage.erase done route = (player.follow stage done route).map Turn.erase := by
  unfold follow
  split
  next => exact player.finished_erase stage _
  next =>
    split
    next => exact player.finished_erase stage _
    next =>
      split
      next => rfl
      next => exact player.finished_erase stage _

theorem complete_erase (route : Route) :
    player.complete stage.erase route = (player.complete stage route).map Turn.erase := by
  unfold complete
  split
  next => rfl
  next done below frames =>
    cases below with
    | nil => exact follow_erase _ stage done route
    | cons tracker rest => exact childDone_erase _ stage tracker

theorem trackerStep_erase (id : NodeId) :
    player.trackerStep stage.erase id = (player.trackerStep stage id).map Turn.erase := by
  unfold trackerStep
  split
  next =>
    split
    next => rfl
    next =>
      split
      next => rfl
      next =>
        split
        next => rfl
        next => rfl
  next => rfl

variable [Output ω]

theorem showScene_erase (node : NodeId) (payload : ScenePayload) :
    player.showScene stage.erase node payload = (player.showScene stage node payload).erase := by
  unfold showScene
  split
  next => rfl
  next =>
    rw [show stage.erase.scenes = stage.scenes from rfl]
    split
    next => exact Stage.apply_erase _ _ _ stage
    next => rfl

theorem enter_erase (id : NodeId) :
    player.enter stage.erase id = (player.enter stage id).map Turn.erase := by
  unfold enter
  cases player.act.node? id with
  | none => exact player.finished_erase stage .completed
  | some node =>
    dsimp only
    cases node.kind with
    | scene payload =>
      exact congrArg (fun shown => goOn _ shown _) (showScene_erase _ (stage.emit _) id payload)
    | wait payload => exact armed_erase _ (stage.emit _) _ _ none
    | transition payload => exact armed_erase _ (stage.emit _) _ _ (some payload.curve)
    | condition payload => rfl
    | tracker payload => rfl

theorem execute_erase (step : Step) :
    player.execute stage.erase step = (player.execute stage step).map Turn.erase := by
  cases step with
  | enter id => exact player.enter_erase stage id
  | complete route => exact player.complete_erase stage route
  | trackerStep id => exact player.trackerStep_erase stage id

theorem run_erase (steps : Nat) (step : Step) :
    run steps player stage.erase step = (run steps player stage step).map eraseMove := by
  induction steps generalizing player stage step with
  | zero => exact player.armYield_erase stage step
  | succ steps ih =>
    rw [run, run, execute_erase]
    cases { player with burstSteps := player.burstSteps + 1, steps := player.steps + 1 }.execute
        stage step with
    | none => rfl
    | some turn =>
      obtain ⟨later, shown, next⟩ := turn
      cases next with
      | none => rfl
      | some next => exact ih later shown next

theorem drive_erase (first : Step) (fresh : Bool) :
    player.drive stage.erase first fresh = (player.drive stage first fresh).map eraseMove :=
  run_erase _ stage _ first

theorem start_erase :
    player.start stage.erase = (player.start stage).map (Prod.map (fun result => result) eraseMove) := by
  unfold start
  rw [stop_erase]
  obtain ⟨stopped, shown⟩ := player.stop stage
  dsimp only [eraseMove]
  cases stopped.act.startId? with
  | none => rfl
  | some node =>
    dsimp only
    rw [drive_erase, Option.map_map, Option.map_map]
    rfl

theorem onTimer_erase (token : Token) :
    player.onTimer stage.erase token = (player.onTimer stage token).map eraseMove := by
  unfold onTimer
  split
  next => rfl
  next =>
    cases player.waiting with
    | none => rfl
    | some wait => exact drive_erase _ stage wait.resume wait.yielded

/-- A call is answered alike, with a ledger and without. -/
theorem answer_erase (call : Call) :
    player.answer stage.erase call = (player.answer stage call).map eraseMove := by
  cases call with
  | start =>
    rw [answer, answer, start_erase, Option.map_map, Option.map_map]
    rfl
  | stop => exact congrArg some (player.stop_erase stage)
  | timer token => exact player.onTimer_erase stage token

end Player

variable [Scheduler τ] [Output ω]

theorem Player.answer_ledgered {player later : Player} {stage shown : Stage τ ω} {call : Call}
    (answer : player.answer stage call = some (later, shown)) :
    ∃ kept, player.answer stage.ledgered call = some (later, kept) := by
  rw [← stage.ledgered_erase, answer_erase, Option.map_eq_some_iff] at answer
  obtain ⟨⟨other, kept⟩, answer, same⟩ := answer
  exact ⟨kept, (Prod.mk.inj same).1 ▸ answer⟩

theorem Career.ledgered {id : PlayerId} {act : Act} {player : Player} {log : List (Episode τ ω)}
    (career : Career id act player log) :
    ∃ log : List (Episode (Ledger τ) ω), Career id act player log := by
  induction career with
  | load settings seeding => exact ⟨[], .load settings seeding⟩
  | call before call stage answer ih =>
    obtain ⟨log, career⟩ := ih
    obtain ⟨kept, answer⟩ := Player.answer_ledgered answer
    exact ⟨_, career.call call stage.ledgered answer⟩

end Erasure

section Issue

variable {τ ω : Type} [Scheduler τ]

/-- The tokens that a call issues: those in a ledger that was empty before. -/
def Episode.issued [Output ω] (episode : Episode τ ω) : List Token :=
  match episode.player.answer episode.stage.ledgered episode.call with
  | some (_, kept) => kept.clock.issued
  | none => []

variable {player later : Player} {stage shown : Stage (Ledger τ) ω} {first : Step}
  {taken : List (Moment (Ledger τ) ω)}

theorem Player.stop_issued (player : Player) (stage : Stage (Ledger τ) ω) :
    (player.stop stage).2.clock.issued = stage.clock.issued := by
  unfold stop
  split
  · unfold finish
    cases player.waiting with
    | none => rfl
    | some wait => rfl
  · rfl

theorem Player.Drove.issued (drove : player.Drove stage first taken later shown) :
    ∃ tokens, shown.clock.issued = stage.clock.issued ++ tokens ∧
      ∀ token ∈ tokens, later.playing = true ∧ token = later.token := by
  obtain ⟨events, -, ends | ⟨wait, pauses⟩⟩ := drove.outcome
  · exact ⟨[], by rw [ends.clock, List.append_nil], by simp⟩
  · have token : player.token = later.token := by
      rw [Player.token, Player.token, drove.id, pauses.generation]
    refine ⟨[player.token], ?_, ?_⟩
    · have armed := pauses.armed
      cases yielded : wait.yielded with
      | false =>
        rw [yielded] at armed
        exact Ledger.issued_of_entered armed
      | true =>
        rw [yielded] at armed
        exact Ledger.issued_of_entered armed
    · intro issued member
      exact ⟨pauses.playing, (List.mem_singleton.1 member).trans token⟩

variable [Output ω] {act : Act} {call : Call}

theorem Player.Responds.issued (responds : player.Responds act stage call later shown) :
    ∃ tokens, shown.clock.issued = stage.clock.issued ++ tokens ∧
      ∀ token ∈ tokens, later.playing = true ∧ token = later.token := by
  have none {other : Ledger τ} (same : other.issued = stage.clock.issued) :
      ∃ tokens, other.issued = stage.clock.issued ++ tokens ∧
        ∀ token ∈ tokens, later.playing = true ∧ token = later.token :=
    ⟨[], by rw [same, List.append_nil], by simp⟩
  cases responds with
  | ignored => exact none rfl
  | stopped => exact none (player.stop_issued stage)
  | refused => exact none (player.stop_issued stage)
  | begun found succeeds drove =>
    obtain ⟨tokens, grown, current⟩ := drove.issued
    exact ⟨tokens, player.stop_issued stage ▸ grown, current⟩
  | resumed _ drove => exact drove.issued

/-- The tokens of a call are those of the playback that it leaves under way. -/
theorem Career.issued {id : PlayerId} {log : List (Episode τ ω)} {stage shown : Stage τ ω}
    (career : Career id act player log) (answer : player.answer stage call = some (later, shown)) :
    ∀ token ∈ (Episode.mk call player stage later shown).issued,
      later.playing = true ∧ token = later.token := by
  obtain ⟨past, ledgered⟩ := career.ledgered
  obtain ⟨kept, answer⟩ := Player.answer_ledgered answer
  obtain ⟨tokens, grown, current⟩ := (ledgered.responds answer).issued
  intro token member
  simp only [Episode.issued, answer, grown] at member
  exact current token member

end Issue

end LightingDesk
