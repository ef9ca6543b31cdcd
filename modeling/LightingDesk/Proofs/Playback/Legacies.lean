import LightingDesk.Proofs.Playback.Legacy
import LightingDesk.Proofs.Playback.Lives

/-!
Sessions whose players have a legacy. As long as it shows in none of them, every request is answered as it
would be without: `Legacy.performAll_ofSession`.
-/

namespace LightingDesk

namespace Legacy

variable {ω : Type} (legacy : Legacy)

/-- The session as it would be if its players had the legacy. -/
def ofSession (session : Session ω) : Session ω :=
  { session with
    stage := legacy.ofStage session.stage
    players := session.players.map legacy.ofPlayer }

/-- The player has no legacy. -/
structure IsNone (id : PlayerId) : Prop where
  generations : legacy.generations id = 0
  steps : legacy.steps id = 0
  depth : legacy.depth id = 0
  generator : legacy.generator? id = none

theorem ofPlayer_of_isNone {player : Player} (none : legacy.IsNone player.id) :
    legacy.ofPlayer player = player := by
  simp only [ofPlayer, none.generations, none.steps, none.depth, Nat.add_zero, Nat.zero_max,
    legacy.ofGenerator_of_eq_none none.generator]

theorem player?_ofSession (session : Session ω) (id : PlayerId) :
    (legacy.ofSession session).player? id = (session.player? id).map legacy.ofPlayer := by
  rw [Session.player?, ofSession, List.find?_map]
  rfl

@[simp] theorem now_ofSession (session : Session ω) : (legacy.ofSession session).now = session.now := rfl

variable [Output ω]

/-- The legacy shows in no player of the session, nor in one that will be loaded. -/
structure Fits (session : Session ω) : Prop where
  living : ∀ player ∈ session.players, ∃ id act, ∃ log : List (Moment TimerQueue ω),
    Life id act player log ∧ (legacy.generator? id = none ∨ act.IsPredictable)
  coming : ∀ number, session.nextPlayer ≤ number → legacy.IsNone ⟨number⟩

variable {legacy} {session later : Session ω} {player : Player} {id : PlayerId}

namespace Fits

theorem suits (fits : legacy.Fits session) (found : session.player? id = some player) :
    legacy.Suits player := by
  obtain ⟨id, act, log, life, suits⟩ := fits.living player (Session.mem_of_player? found)
  rw [Suits, life.chronicle.named, life.chronicle.plays]
  exact suits

theorem stop_waiting (fits : legacy.Fits session) (found : session.player? id = some player)
    (stage : Stage TimerQueue ω) : (player.stop stage).1.waiting = none := by
  obtain ⟨id, act, log, life, -⟩ := fits.living player (Session.mem_of_player? found)
  exact life.stop_waiting stage

theorem replace (fits : legacy.Fits session) (found : session.player? id = some player)
    {later : Player} (stage : Stage TimerQueue ω)
    (lives : ∀ {id act} {log : List (Moment TimerQueue ω)}, Life id act player log →
      ∃ log : List (Moment TimerQueue ω), Life id act later log) :
    legacy.Fits (session.replace later stage) := by
  refine ⟨fun other member => ?_, fits.coming⟩
  rcases Session.mem_replace member with rfl | ⟨member, -⟩
  · obtain ⟨id, act, log, life, suits⟩ := fits.living player (Session.mem_of_player? found)
    obtain ⟨log, life⟩ := lives life
    exact ⟨id, act, log, life, suits⟩
  · exact fits.living other member

theorem load (fits : legacy.Fits session) (act : Act) : legacy.Fits (session.load act).2 := by
  refine ⟨fun player member => ?_, fun number bound => fits.coming number (Nat.le_of_succ_le bound)⟩
  rcases List.mem_append.1 member with member | member
  · exact fits.living player member
  · rw [List.mem_singleton.1 member]
    exact ⟨_, act, [], .load .., .inl (fits.coming _ le_rfl).generator⟩

theorem start (fits : legacy.Fits session) {result : Except SessionError Unit}
    (answer : session.start id = some (result, later)) : legacy.Fits later := by
  rcases Session.start_cases answer with
    ⟨-, -, rfl⟩ | ⟨player, outcome, reached, stage, found, started, -, rfl⟩
  · exact fits
  · exact fits.replace found stage fun life => ⟨_, life.start _ started⟩

theorem restage (fits : legacy.Fits session) (stage : Stage TimerQueue ω) :
    legacy.Fits { session with stage } :=
  ⟨fits.living, fits.coming⟩

theorem stop (fits : legacy.Fits session) (id : PlayerId) : legacy.Fits (session.stop id).2 := by
  unfold Session.stop
  split
  next => exact fits
  next player found => exact fits.replace found _ fun life => ⟨_, life.stop _⟩

theorem deliver {token : Token} (fits : legacy.Fits session)
    (answer : session.deliver token = some later) : legacy.Fits later := by
  unfold Session.deliver at answer
  split at answer
  next => exact Option.some.inj answer ▸ fits
  next player found =>
    simp only [Option.map_eq_some_iff] at answer
    obtain ⟨⟨reached, stage⟩, delivered, rfl⟩ := answer
    exact fits.replace found stage fun life => ⟨_, life.timer _ _ delivered⟩

end Fits

variable (legacy)

omit [Output ω] in
theorem replace_ofSession (session : Session ω) (player : Player) (stage : Stage TimerQueue ω) :
    (legacy.ofSession session).replace (legacy.ofPlayer player) (legacy.ofStage stage) =
      legacy.ofSession (session.replace player stage) := by
  simp only [Session.replace, ofSession, List.map_map, Session.mk.injEq, true_and, and_true]
  refine List.map_congr_left fun other _ => ?_
  exact (apply_ite legacy.ofPlayer _ _ _).symm

omit [Output ω] in
theorem stop_ofSession (session : Session ω) (id : PlayerId) :
    (legacy.ofSession session).stop id =
      Prod.map (fun answer => answer) legacy.ofSession (session.stop id) := by
  unfold Session.stop
  rw [player?_ofSession]
  cases session.player? id with
  | none => rfl
  | some player =>
    have stopped := legacy.stop_ofStage player session.stage
    have replaced := legacy.replace_ofSession session
      (player.stop session.stage).1 (player.stop session.stage).2
    exact congrArg (Prod.mk _) <|
      (congrArg (fun moved => (legacy.ofSession session).replace moved.1 moved.2) stopped).trans replaced

theorem start_ofSession (fits : legacy.Fits session) (id : PlayerId) :
    (legacy.ofSession session).start id =
      (session.start id).map (Prod.map (fun answer => answer) legacy.ofSession) := by
  unfold Session.start
  rw [player?_ofSession]
  cases found : session.player? id with
  | none => rfl
  | some player =>
    have started := legacy.start_ofStage player session.stage (fits.stop_waiting found _)
      (fits.suits found)
    simp only [Option.map_some, ofSession] at started ⊢
    rw [started, Option.map_map, Option.map_map]
    congr 1
    funext ⟨result, moved, stage⟩
    exact congrArg (Prod.mk _) (legacy.replace_ofSession session moved stage)

theorem load_ofSession (fits : legacy.Fits session) (act : Act) :
    (legacy.ofSession session).load act =
      Prod.map (fun id => id) legacy.ofSession (session.load act) := by
  have loaded (settings : EngineSettings) :
      legacy.ofPlayer (.load ⟨session.nextPlayer⟩ act settings session.seeding) =
        .load ⟨session.nextPlayer⟩ act settings session.seeding :=
    legacy.ofPlayer_of_isNone (fits.coming _ le_rfl)
  simp only [Session.load, ofSession, Prod.map, List.map_append, List.map_singleton, loaded]

theorem deliver_ofSession (fits : legacy.Fits session) (token : Token) :
    (legacy.ofSession session).deliver (legacy.ofToken token) =
      (session.deliver token).map legacy.ofSession := by
  have asked : (legacy.ofSession session).player? (legacy.ofToken token).player =
      (session.player? token.player).map legacy.ofPlayer :=
    legacy.player?_ofSession session token.player
  unfold Session.deliver
  rw [asked]
  cases found : session.player? token.player with
  | none => rfl
  | some player =>
    have delivered := legacy.onTimer_ofStage player session.stage token (fits.suits found)
    simp only [Option.map_some, ofSession] at delivered ⊢
    rw [delivered, Option.map_map, Option.map_map]
    congr 1
    funext moved
    exact legacy.replace_ofSession session moved.1 moved.2

omit [Output ω] in
theorem deliveryBound_ofSession (session : Session ω) (limit : Nat) :
    (legacy.ofSession session).deliveryBound limit = session.deliveryBound limit := by
  have pending : (legacy.ofSession session).pendingTimers = session.pendingTimers := List.length_map _
  have largest : (legacy.ofSession session).largestBudget = session.largestBudget := List.foldl_map
  rw [Session.deliveryBound, pending, largest]
  rfl

/-- What comes of a request without the legacy, and with it. -/
structure Carries (plain aged : Option (Session ω)) : Prop where
  same : aged = plain.map legacy.ofSession
  fits : ∀ later, plain = some later → legacy.Fits later

variable {legacy}

namespace Carries

protected theorem none : legacy.Carries (ω := ω) none none := ⟨rfl, by simp⟩

protected theorem some (fits : legacy.Fits session) :
    legacy.Carries (some session) (some (legacy.ofSession session)) :=
  ⟨rfl, fun _ same => Option.some.inj same ▸ fits⟩

theorem deliver (fits : legacy.Fits session) (token : Token) :
    legacy.Carries (session.deliver token)
      ((legacy.ofSession session).deliver (legacy.ofToken token)) :=
  ⟨legacy.deliver_ofSession fits token, fun _ => fits.deliver⟩

theorem fire (fits : legacy.Fits session) (deliveries : Nat) (window : Window) :
    legacy.Carries (session.fire deliveries window)
      ((legacy.ofSession session).fire deliveries window) := by
  induction deliveries generalizing session with
  | zero => exact .some fits
  | succ deliveries ih =>
    have popped : (legacy.ofSession session).stage.clock.pop? window =
        (session.stage.clock.pop? window).map (Prod.map legacy.ofToken legacy.ofClock) :=
      legacy.pop?_ofClock session.stage.clock window
    rw [Session.fire, Session.fire, popped]
    cases session.stage.clock.pop? window with
    | none => exact .some fits
    | some due =>
      obtain ⟨token, clock⟩ := due
      have delivered : legacy.Carries ((session.popped clock).deliver token)
          (((legacy.ofSession session).popped (legacy.ofClock clock)).deliver (legacy.ofToken token)) :=
        deliver (fits.restage _) token
      simp only [Option.map_some, Prod.map_apply]
      rw [← Session.popped, ← Session.popped, delivered.same]
      cases answer : (session.popped clock).deliver token with
      | none => exact .none
      | some reached => exact ih (delivered.fits reached answer)

theorem fireWindow (fits : legacy.Fits session) (window : Window) :
    legacy.Carries (session.fireWindow window) ((legacy.ofSession session).fireWindow window) := by
  have fired := fire fits (session.deliveryBound window.limit) window
  rw [Session.fireWindow, Session.fireWindow, deliveryBound_ofSession, fired.same]
  cases answer : session.fire (session.deliveryBound window.limit) window with
  | none => exact .none
  | some reached => exact .some ((fired.fits reached answer).restage _)

theorem advanceTo (fits : legacy.Fits session) (due : Nat) :
    legacy.Carries (session.advanceTo due) ((legacy.ofSession session).advanceTo due) :=
  fireWindow fits _

/-- How a session with a legacy goes on once the next deadline has been reached. -/
theorem settle_of_advanced (fits : legacy.Fits session) {reached : Session ω} {due last : Nat}
    (rounds : Nat) (next : session.nextDeadline? = some due)
    (near : ¬(last < due ∨ last < session.now)) (advanced : session.advanceTo due = some reached) :
    (legacy.ofSession session).settle last rounds =
      if session.now < reached.now then
        (legacy.ofSession reached).settle last Session.roundsPerInstant
      else if rounds ≤ 1 ∨ reached.now < session.now then some (legacy.ofSession reached)
      else (legacy.ofSession reached).settle last (rounds - 1) := by
  have deadline : (legacy.ofSession session).nextDeadline? = some due :=
    (legacy.nextDeadline?_ofClock session.stage.clock).trans next
  rw [← legacy.now_ofSession session] at near
  rw [Session.settle, deadline]
  dsimp only
  rw [if_neg near, (advanceTo fits due).same, advanced]
  rfl

theorem settle (fits : legacy.Fits session) (last rounds : Nat) :
    legacy.Carries (session.settle last rounds)
      ((legacy.ofSession session).settle last rounds) := by
  have deadline (session : Session ω) :
      (legacy.ofSession session).nextDeadline? = session.nextDeadline? :=
    legacy.nextDeadline?_ofClock session.stage.clock
  fun_induction Session.settle last rounds session with
  | case1 rounds session idle =>
    rw [Session.settle, deadline, idle]
    exact .some fits
  | case2 rounds session due next past =>
    rw [← legacy.now_ofSession session] at past
    rw [Session.settle, deadline, next]
    dsimp only
    rw [if_pos past]
    exact .some fits
  | case3 rounds session due next near failed =>
    rw [← legacy.now_ofSession session] at near
    rw [Session.settle, deadline, next]
    dsimp only
    rw [if_neg near, (advanceTo fits due).same, failed]
    exact .none
  | case4 rounds session due next near reached advanced moved ih =>
    rw [settle_of_advanced fits rounds next near advanced, if_pos moved]
    exact ih ((advanceTo fits due).fits reached advanced)
  | case5 rounds session due next near reached advanced still spent =>
    rw [settle_of_advanced fits rounds next near advanced, if_neg still, if_pos spent]
    exact .some ((advanceTo fits due).fits reached advanced)
  | case6 rounds session due next near reached advanced still more ih =>
    rw [settle_of_advanced fits rounds next near advanced, if_neg still, if_neg more]
    exact ih ((advanceTo fits due).fits reached advanced)

theorem start (fits : legacy.Fits session) (id : PlayerId) :
    legacy.Carries ((session.start id).map Prod.snd)
      (((legacy.ofSession session).start id).map Prod.snd) := by
  refine ⟨?_, fun later answer => ?_⟩
  · rw [legacy.start_ofSession fits, Option.map_map, Option.map_map]
    rfl
  · obtain ⟨⟨result, reached⟩, started, rfl⟩ := Option.map_eq_some_iff.1 answer
    exact fits.start started

theorem play (fits : legacy.Fits session) (act : Act) :
    legacy.Carries ((session.play act).map Prod.snd)
      (((legacy.ofSession session).play act).map Prod.snd) := by
  have started := start (fits.load act) (session.load act).1
  rw [Session.play, Session.play, load_ofSession legacy fits, Option.map_map, Option.map_map]
  exact started

theorem unload (fits : legacy.Fits session) (id : PlayerId) :
    legacy.Carries (Option.some (session.unload id).2)
      (Option.some ((legacy.ofSession session).unload id).2) := by
  have kept (players : List Player) : (players.map legacy.ofPlayer).filter (fun other => other.id != id) =
      (players.filter fun other => other.id != id).map legacy.ofPlayer := List.filter_map
  unfold Session.unload
  rw [player?_ofSession, stop_ofSession]
  cases session.player? id with
  | none => exact .some fits
  | some player =>
    refine ⟨congrArg Option.some ?_, ?_⟩
    · exact congrArg (fun players => ({ (legacy.ofSession (session.stop id).2) with players } : Session ω))
        (kept _)
    · intro later same
      rw [← Option.some.inj same]
      exact ⟨fun player member => (fits.stop id).living player (List.mem_filter.1 member).1,
        (fits.stop id).coming⟩

theorem load (fits : legacy.Fits session) (act : Act) :
    legacy.Carries (Option.some (session.load act).2)
      (Option.some ((legacy.ofSession session).load act).2) := by
  rw [load_ofSession legacy fits]
  exact .some (fits.load act)

theorem stop (fits : legacy.Fits session) (id : PlayerId) :
    legacy.Carries (Option.some (session.stop id).2)
      (Option.some ((legacy.ofSession session).stop id).2) := by
  rw [stop_ofSession]
  exact .some (fits.stop id)

theorem stopAll (fits : legacy.Fits session) :
    legacy.Carries (Option.some session.stopAll) (Option.some (legacy.ofSession session).stopAll) := by
  have same : (legacy.ofSession session).players.map Player.id = session.players.map Player.id := by
    rw [ofSession, List.map_map]
    rfl
  unfold Session.stopAll
  rw [same]
  clear same
  generalize session.players.map Player.id = ids
  induction ids generalizing session with
  | nil => exact .some fits
  | cons id rest ih =>
    rw [List.foldl_cons, List.foldl_cons, stop_ofSession]
    exact ih (fits.stop id)

theorem advance (fits : legacy.Fits session) (delay : Nat) :
    legacy.Carries (session.advance delay) ((legacy.ofSession session).advance delay) := by
  have windows : (legacy.ofSession session).stage.clock.windowBy? delay =
      session.stage.clock.windowBy? delay := rfl
  rw [Session.advance, Session.advance, windows]
  cases session.stage.clock.windowBy? delay with
  | none => exact .none
  | some window => exact fireWindow fits window

theorem runUntilIdle (fits : legacy.Fits session) (limit : Nat) :
    legacy.Carries ((session.runUntilIdle limit).map Prod.snd)
      (((legacy.ofSession session).runUntilIdle limit).map Prod.snd) := by
  unfold Session.runUntilIdle
  rw [now_ofSession]
  cases Span.after? session.now limit with
  | none => exact .none
  | some last =>
    have settled := settle fits last Session.roundsPerInstant
    simp only [Option.bind_eq_bind, Option.bind_some, settled.same]
    cases answer : session.settle last Session.roundsPerInstant with
    | none => exact .none
    | some later => exact .some (settled.fits later answer)

end Carries

/-- A request is answered as it would be without the legacy. -/
theorem perform_ofSession (fits : legacy.Fits session) (request : Request ω) :
    legacy.Carries (session.perform request) ((legacy.ofSession session).perform request) := by
  cases request with
  | load act => exact .load fits act
  | unload player => exact .unload fits player
  | play act => exact .play fits act
  | start player => exact .start fits player
  | stop player => exact .stop fits player
  | stopAll => exact .stopAll fits
  | advance delay => exact .advance fits delay
  | advanceTo target => exact .fireWindow fits _
  | runUntilIdle limit => exact .runUntilIdle fits limit
  | changeSignals change => exact .some (fits.restage _)
  | changeScenes change => exact .some (fits.restage _)
  | changeOutput change => exact .some (fits.restage _)
  | changeBus change => exact .some (fits.restage _)

theorem performAll_ofSession (fits : legacy.Fits session) (requests : List (Request ω)) :
    (legacy.ofSession session).performAll requests =
      (session.performAll requests).map legacy.ofSession := by
  induction requests generalizing session with
  | nil => rfl
  | cons request rest ih =>
    have carried := legacy.perform_ofSession fits request
    rw [Session.performAll, Session.performAll, List.foldlM_cons, List.foldlM_cons, carried.same]
    cases answer : session.perform request with
    | none => rfl
    | some later => exact ih (carried.fits later answer)

end Legacy

end LightingDesk
