import LightingDesk.Proofs.Playback.Frames
import LightingDesk.Proofs.Playback.Turn

/-!
The moments of a player: the steps that it takes, each with what it finds. A run of steps is followed
moment by moment with `Player.run_rule`, which asks of an invariant only what one step does to it.
-/

namespace LightingDesk

/-- A step that is about to be taken, with the player and the stage that it finds. -/
structure Moment (σ ω : Type) where
  player : Player
  stage : Stage σ ω
  step : Step

namespace Player

/-- The player with one more step on its counters. -/
def counted (player : Player) : Player :=
  { player with burstSteps := player.burstSteps + 1, steps := player.steps + 1 }

variable {σ ω : Type} [Scheduler σ]

/-- The player at the beginning of a run of steps. -/
def burst (player : Player) (stage : Stage σ ω) (fresh : Bool) : Player :=
  if fresh || stage.now != player.burstAt then
    { player with burstAt := stage.now, burstSteps := 0 }
  else player

/-- The player at the beginning of a playback. -/
def begun (player : Player) (stage : Stage σ ω) : Player :=
  { player with
    generation := player.generation + 1
    playing := true
    frames := []
    memory := .empty
    startedAt := stage.now }

theorem burst_eq (player : Player) (stage : Stage σ ω) (fresh : Bool) :
    ∃ burstAt burstSteps, player.burst stage fresh = { player with burstAt, burstSteps } := by
  unfold burst
  split
  · exact ⟨_, _, rfl⟩
  · exact ⟨_, _, rfl⟩

theorem stop_fst (player : Player) (stage : Stage σ ω) :
    (player.stop stage).1 = if player.playing then player.ended else player := by
  unfold stop
  split
  · rfl
  · rfl

theorem stop_id (player : Player) (stage : Stage σ ω) : (player.stop stage).1.id = player.id := by
  rw [stop_fst]
  split
  · rfl
  · rfl

theorem stop_act (player : Player) (stage : Stage σ ω) : (player.stop stage).1.act = player.act := by
  rw [stop_fst]
  split
  · rfl
  · rfl

theorem stop_playing (player : Player) (stage : Stage σ ω) :
    (player.stop stage).1.playing = false := by
  rw [stop_fst]
  split
  · rfl
  next idle => simpa using idle

variable [Output ω]

/-- The moments of a run of at most the given number of steps. -/
def runMoments : Nat → Player → Stage σ ω → Step → List (Moment σ ω)
  | 0, _, _, _ => []
  | steps + 1, player, stage, step =>
      ⟨player, stage, step⟩ ::
        match player.counted.execute stage step with
        | some (later, stage, some next) => runMoments steps later stage next
        | _ => []

def driveMoments (player : Player) (stage : Stage σ ω) (first : Step) (fresh : Bool) :
    List (Moment σ ω) :=
  let player := player.burst stage fresh
  runMoments (player.settings.budget - player.burstSteps) player stage first

/-- The moments of a start. -/
def startMoments (player : Player) (stage : Stage σ ω) : List (Moment σ ω) :=
  let (player, stage) := player.stop stage
  match player.act.startId? with
  | none => []
  | some node => (player.begun stage).driveMoments stage (.enter node) true

/-- The moments that the delivery of a timer brings about. -/
def timerMoments (player : Player) (stage : Stage σ ω) (token : Token) : List (Moment σ ω) :=
  if token != player.token || !player.playing then []
  else
    match player.waiting with
    | none => []
    | some wait => { player with waiting := none }.driveMoments stage wait.resume wait.yielded

theorem length_runMoments_le (steps : Nat) (player : Player) (stage : Stage σ ω) (step : Step) :
    (runMoments steps player stage step).length ≤ steps := by
  induction steps generalizing player stage step with
  | zero => exact Nat.le_refl _
  | succ steps ih =>
    rw [runMoments, List.length_cons]
    refine Nat.succ_le_succ ?_
    split
    · exact ih _ _ _
    · exact Nat.zero_le _

/-- What a run comes to, from an invariant that may depend on how many steps are left. -/
theorem budget_rule {P : Nat → List (Moment σ ω) → Player → Stage σ ω → Step → Prop}
    {Q : List (Moment σ ω) → Player → Stage σ ω → Prop}
    (goes : ∀ {steps past player stage step later stage' next},
      P (steps + 1) past player stage step →
      player.counted.execute stage step = some (later, stage', some next) →
      P steps (past ++ [⟨player, stage, step⟩]) later stage' next)
    (rests : ∀ {steps past player stage step later stage'}, P (steps + 1) past player stage step →
      player.counted.execute stage step = some (later, stage', none) →
      Q (past ++ [⟨player, stage, step⟩]) later stage')
    (yields : ∀ {past player stage step later stage'}, P 0 past player stage step →
      player.armYield stage step = some (later, stage') → Q past later stage')
    {steps : Nat} {past : List (Moment σ ω)} {player later : Player} {stage stage' : Stage σ ω}
    {step : Step} (first : P steps past player stage step)
    (ran : run steps player stage step = some (later, stage')) :
    Q (past ++ runMoments steps player stage step) later stage' := by
  induction steps generalizing past player stage step with
  | zero => simpa only [runMoments, List.append_nil] using yields first ran
  | succ steps ih =>
    unfold run at ran
    rw [runMoments]
    cases taken : player.counted.execute stage step with
    | none =>
      unfold counted at taken
      simp [taken] at ran
    | some turn =>
      obtain ⟨reached, shown, next⟩ := turn
      have answered := taken
      unfold counted at answered
      cases next with
      | none =>
        simp only [answered, Option.some.injEq, Prod.mk.injEq] at ran
        obtain ⟨rfl, rfl⟩ := ran
        exact rests first taken
      | some next =>
        simp only [answered] at ran
        simpa only [List.append_assoc, List.singleton_append] using ih (goes first taken) ran

section RunRule

variable {P : List (Moment σ ω) → Player → Stage σ ω → Step → Prop}
  (goes : ∀ {past player stage step later stage' next}, P past player stage step →
    player.counted.execute stage step = some (later, stage', some next) →
    P (past ++ [⟨player, stage, step⟩]) later stage' next)
include goes

/-- An invariant that every step hands on holds at all moments of a run. -/
theorem moments_rule {steps : Nat} {past : List (Moment σ ω)} {player : Player}
    {stage : Stage σ ω} {step : Step} (first : P past player stage step) :
    ∀ moment ∈ runMoments steps player stage step,
      ∃ before, P before moment.player moment.stage moment.step := by
  induction steps generalizing past player stage step with
  | zero => simp [runMoments]
  | succ steps ih =>
    intro moment member
    rw [runMoments] at member
    rcases List.mem_cons.1 member with rfl | member
    · exact ⟨past, first⟩
    · split at member
      next later stage' next taken => exact ih (goes first taken) moment member
      next => simp at member

/-- What a run comes to, from what each step hands on and what becomes of the last one. -/
theorem run_rule {Q : List (Moment σ ω) → Player → Stage σ ω → Prop}
    (rests : ∀ {past player stage step later stage'}, P past player stage step →
      player.counted.execute stage step = some (later, stage', none) →
      Q (past ++ [⟨player, stage, step⟩]) later stage')
    (yields : ∀ {past player stage step later stage'}, P past player stage step →
      player.armYield stage step = some (later, stage') → Q past later stage')
    {steps : Nat} {past : List (Moment σ ω)} {player later : Player} {stage stage' : Stage σ ω}
    {step : Step} (first : P past player stage step)
    (ran : run steps player stage step = some (later, stage')) :
    Q (past ++ runMoments steps player stage step) later stage' :=
  budget_rule (P := fun _ => P) goes rests yields first ran

/-- A run that has no answer breaks off in one of its moments. -/
theorem run_none_rule {steps : Nat} {past : List (Moment σ ω)} {player : Player}
    {stage : Stage σ ω} {step : Step} (first : P past player stage step)
    (failed : run steps player stage step = none) :
    ∃ past player stage step, P past player stage step ∧
      (player.counted.execute stage step = none ∨ player.armYield stage step = none) := by
  induction steps generalizing past player stage step with
  | zero => exact ⟨past, player, stage, step, first, .inr failed⟩
  | succ steps ih =>
    unfold run at failed
    cases taken : player.counted.execute stage step with
    | none => exact ⟨past, player, stage, step, first, .inl taken⟩
    | some turn =>
      obtain ⟨reached, shown, next⟩ := turn
      have answered := taken
      unfold counted at answered
      cases next with
      | none => simp [answered] at failed
      | some next =>
        simp only [answered] at failed
        exact ih (goes first taken) failed

end RunRule

theorem start_eq (player : Player) (stage : Stage σ ω) :
    player.start stage =
      match (player.stop stage).1.act.startId? with
      | none =>
          some (.error .emptyGraph, (player.stop stage).1, (player.stop stage).2.emit
            (.stopped (player.stop stage).1.id (player.stop stage).1.act.id (.fault .emptyGraph)))
      | some node =>
          (((player.stop stage).1.begun (player.stop stage).2).drive (player.stop stage).2
            (.enter node) true).map fun (player, stage) => (.ok (), player, stage) :=
  rfl

section Calls

variable {player later : Player} {stage stage' : Stage σ ω}

/-- A start is refused for want of a node, or runs from the start node. -/
theorem start_cases {result : Except Fault Unit}
    (answer : player.start stage = some (result, later, stage')) :
    (player.act.startId? = none ∧ result = .error .emptyGraph ∧ later = (player.stop stage).1 ∧
      stage' = (player.stop stage).2.emit (.stopped player.id player.act.id (.fault .emptyGraph)) ∧
      player.startMoments stage = []) ∨
    ∃ node, player.act.startId? = some node ∧ result = .ok () ∧
      ((player.stop stage).1.begun (player.stop stage).2).drive (player.stop stage).2 (.enter node)
        true = some (later, stage') ∧
      player.startMoments stage = ((player.stop stage).1.begun (player.stop stage).2).driveMoments
        (player.stop stage).2 (.enter node) true := by
  rw [start_eq] at answer
  unfold startMoments
  rw [stop_act, stop_id] at answer
  simp only [stop_act]
  cases found : player.act.startId? with
  | none =>
    simp only [found, Option.some.injEq, Prod.mk.injEq] at answer
    obtain ⟨rfl, rfl, rfl⟩ := answer
    exact .inl ⟨rfl, rfl, rfl, rfl, rfl⟩
  | some node =>
    simp only [found, Option.map_eq_some_iff, Prod.mk.injEq] at answer
    obtain ⟨⟨reached, shown⟩, driven, rfl, rfl, rfl⟩ := answer
    exact .inr ⟨node, rfl, rfl, driven, rfl⟩

/-- A timer is ignored, or resumes the step that waits. -/
theorem timer_cases {token : Token} (answer : player.onTimer stage token = some (later, stage')) :
    (later = player ∧ stage' = stage ∧ player.timerMoments stage token = []) ∨
    ∃ wait, token = player.token ∧ player.playing = true ∧ player.waiting = some wait ∧
      { player with waiting := none }.drive stage wait.resume wait.yielded = some (later, stage') ∧
      player.timerMoments stage token =
        { player with waiting := none }.driveMoments stage wait.resume wait.yielded := by
  unfold onTimer at answer
  unfold timerMoments
  split at answer
  next stale =>
    simp only [Option.some.injEq, Prod.mk.injEq] at answer
    exact .inl ⟨answer.1.symm, answer.2.symm, if_pos stale⟩
  next current =>
    rw [if_neg current]
    simp only [Bool.or_eq_true, bne_iff_ne, Bool.not_eq_true', not_or, not_not,
      Bool.not_eq_false] at current
    cases waiting : player.waiting with
    | none =>
      simp only [waiting, Option.some.injEq, Prod.mk.injEq] at answer
      exact .inl ⟨answer.1.symm, answer.2.symm, rfl⟩
    | some wait =>
      simp only [waiting] at answer
      exact .inr ⟨wait, current.1, current.2, rfl, answer, rfl⟩

end Calls

end Player

namespace Moment

variable {σ ω : Type} [Scheduler σ] [Output ω]

def cursor (moment : Moment σ ω) : Cursor := moment.player.cursor moment.step

/-- What comes of the step. -/
def turn (moment : Moment σ ω) : Option (Player.Turn σ ω) :=
  moment.player.counted.execute moment.stage moment.step

def outcome (moment : Moment σ ω) : Bool := moment.player.outcome moment.stage moment.step

/-- Where the playback stands after the step: before the step that follows at once, or before the one
that waits for a timer. -/
def due? (moment : Moment σ ω) : Option Cursor :=
  match moment.turn with
  | none => none
  | some (later, _, some next) => some (later.cursor next)
  | some (later, _, none) => later.waiting.map fun wait => later.cursor wait.resume

/-- The nodes that are reported as entered in the step. -/
def entered (moment : Moment σ ω) : List NodeId :=
  match moment.turn with
  | none => []
  | some (_, stage, _) =>
      (stage.trace.toList.drop moment.stage.trace.size).filterMap TraceEntry.entered?

/-- The step ends the playback and reports why. -/
def StopsFor (moment : Moment σ ω) (reason : StopReason) : Prop :=
  ∃ later, later.playing = false ∧ moment.turn = some (later,
    moment.stage.emit (.stopped moment.player.id moment.player.act.id reason), none)

/-- A step of a playback that is under way. -/
structure Live (moment : Moment σ ω) : Prop where
  playing : moment.player.playing = true
  free : moment.player.waiting = none
  answered : moment.turn.isSome = true
  fits : moment.cursor.Fits moment.player.act

theorem entered_of_enters {moment : Moment σ ω} {later : Player} {stage : Stage σ ω}
    {next : Option Step} {nodes : List NodeId} (turn : moment.turn = some (later, stage, next))
    (enters : moment.stage.Enters stage nodes) : moment.entered = nodes := by
  obtain ⟨entries, grown, entered⟩ := enters
  simp only [Moment.entered, turn, grown]
  rw [← Array.length_toList, List.drop_left, entered]

theorem Live.exists_turned {moment : Moment σ ω} (live : moment.Live) :
    ∃ turn, moment.turn = some turn ∧
      moment.player.counted.Turned moment.stage moment.step turn := by
  obtain ⟨turn, taken⟩ := Option.isSome_iff_exists.1 live.answered
  exact ⟨turn, taken, Player.execute_turned live.free taken⟩

/-- A step of a playback either leads on or ends it. -/
theorem Live.cases {moment : Moment σ ω} (live : moment.Live) :
    (∃ due, moment.due? = some due ∧ moment.cursor.Next moment.player.act moment.outcome due ∧
      ∀ reason, ¬moment.StopsFor reason) ∨
    (∃ reason, moment.due? = none ∧ moment.cursor.Stops moment.player.act reason ∧
      moment.StopsFor reason) := by
  obtain ⟨turn, taken, turned⟩ := live.exists_turned
  cases turned with
  | stopped stops =>
    refine .inr ⟨_, ?_, stops, _, rfl, taken⟩
    simp only [due?, taken]
    rfl
  | goesOn next =>
    refine .inl ⟨_, ?_, next, ?_⟩
    · simp only [due?, taken]
    · rintro reason ⟨later, -, stopped⟩
      rw [taken] at stopped
      simp at stopped
  | waits next continues waiting =>
    refine .inl ⟨_, ?_, next, ?_⟩
    · simp only [due?, taken, waiting]
      rfl
    · rintro reason ⟨later, idle, stopped⟩
      rw [taken, Option.some.injEq, Prod.mk.injEq] at stopped
      rw [← stopped.1, continues.playing] at idle
      exact absurd live.playing (by simpa [Player.counted] using idle)
  | @stuck route empty complete =>
    have allowed := live.fits.allowed
    rw [show moment.cursor.step = .complete route from complete] at allowed
    exact absurd empty allowed

theorem Live.entered_eq {moment : Moment σ ω} (live : moment.Live) :
    moment.entered = moment.step.entering := by
  obtain ⟨turn, taken, turned⟩ := live.exists_turned
  cases turned with
  | stopped stops =>
    obtain ⟨done, route, -, complete⟩ := live.fits.last_frame stops
    have step : moment.step = .complete route := complete
    rw [entered_of_enters taken (moment.stage.enters_emit _), step]
    rfl
  | goesOn next continues free clock reports => exact entered_of_enters taken reports.enters
  | waits next continues waiting armed reports => exact entered_of_enters taken reports.enters
  | @stuck route empty complete =>
    rw [entered_of_enters taken (.refl _), complete]
    rfl

theorem Live.next_of_due? {moment : Moment σ ω} {due : Cursor} (live : moment.Live)
    (leads : moment.due? = some due) :
    moment.cursor.Next moment.player.act moment.outcome due := by
  rcases live.cases with ⟨other, found, next, -⟩ | ⟨reason, absent, -⟩
  · rw [leads, Option.some.injEq] at found
    exact found ▸ next
  · rw [leads] at absent
    simp at absent

theorem Live.stopsFor_iff {moment : Moment σ ω} {reason : StopReason} (live : moment.Live) :
    moment.StopsFor reason ↔ moment.cursor.Stops moment.player.act reason := by
  rcases live.cases with ⟨due, -, next, never⟩ | ⟨other, -, stops, stopped⟩
  · exact ⟨fun stopped => absurd stopped (never reason), fun stops => absurd stops next.not_stops⟩
  · constructor
    · obtain ⟨later, -, turn⟩ := stopped
      rintro ⟨again, -, same⟩
      rw [turn, Option.some.injEq, Prod.mk.injEq, Prod.mk.injEq] at same
      have events := Stage.emit_injective same.2.1
      rw [Event.stopped.injEq] at events
      exact events.2.2 ▸ stops
    · intro again
      exact again.unique stops ▸ stopped

theorem Live.due?_eq_none_of_stopsFor {moment : Moment σ ω} {reason : StopReason}
    (live : moment.Live) (stopped : moment.StopsFor reason) : moment.due? = none := by
  rcases live.cases with ⟨due, -, -, never⟩ | ⟨other, absent, -, -⟩
  · exact absurd stopped (never reason)
  · exact absent

end Moment

end LightingDesk
