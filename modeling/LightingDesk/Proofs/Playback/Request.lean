import LightingDesk.Dmx.Universe
import LightingDesk.Playback.Session
import LightingDesk.Proofs.Playback.Moment

/-!
What a host may ask of a session, in any order, and the runs that come of it. An invariant of sessions
has to be kept by a few deeds only, which `Session.Kept` lists: `Kept.run` carries it through every
request, `Kept.firing` into the midst of a window. An invariant that holds only between windows is
`Lasting`, one that a request keeps unless it loads or starts a player is `Steady`.
-/

namespace LightingDesk

/-- What a host may ask of a session, or change on its stage. -/
inductive Request (ω : Type) where
  | load (act : Act)
  | unload (player : PlayerId)
  | play (act : Act)
  | start (player : PlayerId)
  | stop (player : PlayerId)
  | stopAll
  | advance (delay : Nat)
  | advanceTo (target : Nat)
  | runUntilIdle (limit : Nat)
  | changeSignals (change : SignalBoard → SignalBoard)
  | changeScenes (change : SceneLibrary → SceneLibrary)
  | changeOutput (change : ω → ω)
  | changeBus (change : EventBus → EventBus)

/-- The request loads no player and starts none. -/
def Request.IsSteady {ω : Type} : Request ω → Prop
  | .load _ | .play _ | .start _ => False
  | _ => True

namespace Session

variable {ω : Type} [Output ω]

/-- The session after a request, whether or not the answer is an error; none if an instant would lie
past the last one. -/
def perform (session : Session ω) : Request ω → Option (Session ω)
  | .load act => some (session.load act).2
  | .unload player => some (session.unload player).2
  | .play act => (session.play act).map Prod.snd
  | .start player => (session.start player).map Prod.snd
  | .stop player => some (session.stop player).2
  | .stopAll => some session.stopAll
  | .advance delay => session.advance delay
  | .advanceTo target => session.advanceTo target
  | .runUntilIdle limit => (session.runUntilIdle limit).map Prod.snd
  | .changeSignals change => some (session.mapSignals change)
  | .changeScenes change => some (session.mapScenes change)
  | .changeOutput change => some (session.mapOutput change)
  | .changeBus change => some (session.mapStage fun stage => { stage with bus := change stage.bus })

/-- The session after a list of requests. -/
def performAll (session : Session ω) (requests : List (Request ω)) : Option (Session ω) :=
  requests.foldlM perform session

/-- The session when a timer has been taken from its clock. -/
def popped (session : Session ω) (clock : TimerQueue) : Session ω :=
  session.mapStage fun stage => stage.withClock clock

def closed (session : Session ω) (window : Window) : Session ω :=
  session.mapStage fun stage => stage.withClock (stage.clock.close window)

/-! ### The moments of players -/

def startMoments (session : Session ω) (id : PlayerId) : List (Moment TimerQueue ω) :=
  match session.player? id with
  | none => []
  | some player => player.startMoments session.stage

def deliverMoments (session : Session ω) (token : Token) : List (Moment TimerQueue ω) :=
  match session.player? token.player with
  | none => []
  | some player => player.timerMoments session.stage token

def fireMoments : Nat → Window → Session ω → List (Moment TimerQueue ω)
  | 0, _, _ => []
  | deliveries + 1, window, session =>
      match session.stage.clock.pop? window with
      | none => []
      | some (token, clock) =>
          (session.popped clock).deliverMoments token ++
            match (session.popped clock).deliver token with
            | none => []
            | some later => fireMoments deliveries window later

def windowMoments (session : Session ω) (window : Window) : List (Moment TimerQueue ω) :=
  session.fireMoments (session.deliveryBound window.limit) window

def settleMoments (last : Nat) (rounds : Nat) (session : Session ω) :
    List (Moment TimerQueue ω) :=
  match session.nextDeadline? with
  | none => []
  | some deadline =>
      if last < deadline ∨ last < session.now then []
      else
        session.windowMoments (session.stage.clock.windowTo deadline) ++
          match session.advanceTo deadline with
          | none => []
          | some later =>
              if session.now < later.now then settleMoments last roundsPerInstant later
              else if rounds ≤ 1 ∨ later.now < session.now then []
              else settleMoments last (rounds - 1) later
termination_by (last + 1 - session.now, rounds)
decreasing_by
  · apply Prod.Lex.left
    omega
  · apply Prod.Lex.right'
    · omega
    · omega

/-- The moments that a request brings about, in the order in which players take their steps. -/
def moments (session : Session ω) : Request ω → List (Moment TimerQueue ω)
  | .play act => (session.load act).2.startMoments (session.load act).1
  | .start player => session.startMoments player
  | .advance delay =>
      match session.stage.clock.windowBy? delay with
      | none => []
      | some window => session.windowMoments window
  | .advanceTo target => session.windowMoments (session.stage.clock.windowTo target)
  | .runUntilIdle limit =>
      match Span.after? session.now limit with
      | none => []
      | some last => session.settleMoments last roundsPerInstant
  | _ => []

/-- A session as it has become since it was created, and the moments of its players so far. -/
inductive Run : Session ω → List (Moment TimerQueue ω) → Prop where
  | create (output : ω) (scenes : SceneLibrary) (settings : EngineSettings) (seeding : Seeding) :
      Run (.create output scenes settings seeding) []
  | perform {session log later} (before : Run session log) (request : Request ω)
      (answer : session.perform request = some later) : Run later (log ++ session.moments request)

def Reachable (session : Session ω) : Prop := ∃ log, session.Run log

/-- A session with nothing to play, and with nothing in its universe. -/
def bare (stepsAtOnce : UInt64) : Session Universe :=
  .create (.empty 1) .empty ⟨stepsAtOnce, none, 8⟩ (.splitmix 0)

theorem Run.bare (stepsAtOnce : UInt64) : (Session.bare stepsAtOnce).Run [] := .create ..

/-- The states of a session while the timers of a window are delivered. -/
inductive Firing (window : Window) (session : Session ω) : Session ω → Prop where
  | opened : Firing window session session
  | delivered {middle later token clock} (before : Firing window session middle)
      (taken : middle.stage.clock.pop? window = some (token, clock))
      (delivery : (middle.popped clock).deliver token = some later) : Firing window session later

/-- The deliveries of a window pass through its states and no others. -/
theorem Firing.fire {window : Window} {session middle later : Session ω} {deliveries : Nat}
    (before : Firing window session middle)
    (answer : middle.fire deliveries window = some later) : Firing window session later := by
  induction deliveries generalizing middle with
  | zero => exact Option.some.inj answer ▸ before
  | succ deliveries ih =>
    unfold Session.fire at answer
    split at answer
    next => exact Option.some.inj answer ▸ before
    next token clock taken =>
      split at answer
      next => simp at answer
      next reached delivery => exact ih (before.delivered taken delivery) answer

/-! ### Invariants of sessions -/

variable {I : Session ω → List (Moment TimerQueue ω) → Prop}

/-- The deeds that an invariant has to be kept by while the timers of a window are delivered. -/
structure Ticks (window : Window) (I : Session ω → List (Moment TimerQueue ω) → Prop) : Prop where
  drop : ∀ {session log token clock}, I session log →
    session.stage.clock.pop? window = some (token, clock) → session.player? token.player = none →
    I (session.popped clock) log
  timer : ∀ {session log token clock player later stage}, I session log →
    session.stage.clock.pop? window = some (token, clock) →
    session.player? token.player = some player →
    player.onTimer (session.popped clock).stage token = some (later, stage) →
    I ((session.popped clock).replace later stage)
      (log ++ player.timerMoments (session.popped clock).stage token)

/-- Letting time pass, as a whole, keeps an invariant. -/
structure Passes (I : Session ω → List (Moment TimerQueue ω) → Prop) : Prop where
  pass : ∀ {session log target later}, I session log → session.advanceTo target = some later →
    I later (log ++ session.windowMoments (session.stage.clock.windowTo target))

/-- The deeds that an invariant has to be kept by if no player is loaded or started. -/
structure Steady (I : Session ω → List (Moment TimerQueue ω) → Prop) : Prop extends Passes I where
  restage : ∀ {session log} (stage : Stage TimerQueue ω), I session log →
    stage.clock = session.stage.clock → stage.trace = session.stage.trace →
    I { session with stage } log
  remove : ∀ {session log} (id : PlayerId), I session log →
    (∀ player, session.player? id = some player → player.playing = false) →
    I { session with players := session.players.filter fun other => other.id != id } log
  stop : ∀ {session log id player}, I session log → session.player? id = some player →
    I (session.replace (player.stop session.stage).1 (player.stop session.stage).2) log

/-- The deeds that an invariant between windows has to be kept by. -/
structure Lasting (I : Session ω → List (Moment TimerQueue ω) → Prop) : Prop extends Steady I where
  create : ∀ output scenes settings seeding, I (.create output scenes settings seeding) []
  load : ∀ {session log} (act : Act), I session log → I (session.load act).2 log
  start : ∀ {session log id player result later stage}, I session log →
    session.player? id = some player → player.start session.stage = some (result, later, stage) →
    I (session.replace later stage) (log ++ player.startMoments session.stage)

/-- The deeds that an invariant of sessions and of the moments so far has to be kept by. -/
structure Kept (I : Session ω → List (Moment TimerQueue ω) → Prop) : Prop where
  create : ∀ output scenes settings seeding, I (.create output scenes settings seeding) []
  restage : ∀ {session log} (stage : Stage TimerQueue ω), I session log →
    stage.clock = session.stage.clock → stage.trace = session.stage.trace →
    I { session with stage } log
  load : ∀ {session log} (act : Act), I session log → I (session.load act).2 log
  remove : ∀ {session log} (id : PlayerId), I session log →
    (∀ player, session.player? id = some player → player.playing = false) →
    I { session with players := session.players.filter fun other => other.id != id } log
  start : ∀ {session log id player result later stage}, I session log →
    session.player? id = some player → player.start session.stage = some (result, later, stage) →
    I (session.replace later stage) (log ++ player.startMoments session.stage)
  stop : ∀ {session log id player}, I session log → session.player? id = some player →
    I (session.replace (player.stop session.stage).1 (player.stop session.stage).2) log
  drop : ∀ {session log window token clock}, I session log →
    session.stage.clock.pop? window = some (token, clock) → session.player? token.player = none →
    I (session.popped clock) log
  timer : ∀ {session log window token clock player later stage}, I session log →
    session.stage.clock.pop? window = some (token, clock) →
    session.player? token.player = some player →
    player.onTimer (session.popped clock).stage token = some (later, stage) →
    I ((session.popped clock).replace later stage)
      (log ++ player.timerMoments (session.popped clock).stage token)
  close : ∀ {session log} (window : Window), I session log → I (session.closed window) log

omit [Output ω] in
theorem id_of_player? {session : Session ω} {id : PlayerId} {player : Player}
    (found : session.player? id = some player) : player.id = id := by
  simpa using List.find?_some found

omit [Output ω] in
theorem player?_replace {session : Session ω} {player later : Player}
    (found : session.player? later.id = some player) (stage : Stage TimerQueue ω) (id : PlayerId) :
    (session.replace later stage).player? id =
      if id = later.id then some later else session.player? id := by
  have same : ((fun other : Player => other.id == id) ∘ fun other =>
      if other.id == later.id then later else other) = fun other => other.id == id := by
    funext other
    rw [Function.comp_apply]
    split
    next named => rw [show other.id = later.id by simpa using named]
    next => rfl
  rw [player?, replace, List.find?_map, same]
  by_cases own : id = later.id
  · subst own
    rw [player?] at found
    rw [found, Option.map_some, if_pos rfl, if_pos]
    simpa using List.find?_some found
  · rw [if_neg own, player?]
    cases other : session.players.find? fun other => other.id == id with
    | none => rfl
    | some other' =>
      have named : other'.id = id := by simpa using List.find?_some other
      rw [Option.map_some, if_neg]
      simpa [named] using own

omit [Output ω] in
theorem player?_remove (session : Session ω) (id other : PlayerId) :
    Session.player?
        { session with players := session.players.filter fun other => other.id != id } other =
      if other = id then none else session.player? other := by
  rw [player?, List.find?_filter]
  split
  next same =>
    rw [List.find?_eq_none]
    intro player _
    simp [same]
  next different =>
    rw [player?]
    congr 1
    funext player
    by_cases named : player.id = other
    · simp [named, different]
    · simp [named]

omit [Output ω] in
theorem stop_idle (session : Session ω) (id : PlayerId) :
    ∀ player, (session.stop id).2.player? id = some player → player.playing = false := by
  intro other member
  unfold Session.stop at member
  cases found : session.player? id with
  | none => simp [found] at member
  | some player =>
    have named : (player.stop session.stage).1.id = id := by
      rw [Player.stop_id, id_of_player? found]
    simp only [found] at member
    rw [player?_replace (named ▸ found), if_pos named.symm, Option.some.injEq] at member
    rw [← member]
    exact player.stop_playing session.stage

omit [Output ω] in
theorem player?_load {session : Session ω} (act : Act)
    (absent : session.player? (session.load act).1 = none) :
    ∃ settings, ∀ id, (session.load act).2.player? id =
      if id = (session.load act).1 then some (.load id act settings session.seeding)
      else session.player? id := by
  let settings := { session.settings with
    randomSeed := session.settings.randomSeed.map fun seed => seed + session.nextPlayer.toUInt64 }
  refine ⟨settings, fun id => ?_⟩
  have sought : (session.load act).2.player? id = (session.player? id).or
      ([Player.load (session.load act).1 act settings session.seeding].find? fun player => player.id == id) :=
    List.find?_append
  rw [sought]
  split
  next same =>
    rw [same, absent, Option.none_or]
    simp [Player.load]
  next other =>
    rw [List.find?_singleton, if_neg, Option.or_none]
    simpa [Player.load] using Ne.symm other

theorem deliver_of_player? {session : Session ω} {player : Player} {token : Token}
    (found : session.player? token.player = some player) : session.deliver token =
      (player.onTimer session.stage token).map fun (later, stage) => session.replace later stage := by
  rw [deliver, found]

variable {log : List (Moment TimerQueue ω)} {session later : Session ω} {window : Window}

/-- A start is refused for want of the player, or else it is the player that answers. -/
theorem start_cases {id : PlayerId} {result : Except SessionError Unit}
    (answer : session.start id = some (result, later)) :
    (session.player? id = none ∧ result = .error (.unknownPlayer id) ∧ later = session) ∨
    ∃ player outcome reached shown, session.player? id = some player ∧
      player.start session.stage = some (outcome, reached, shown) ∧
      result = outcome.mapError .act ∧ later = session.replace reached shown := by
  unfold Session.start at answer
  split at answer
  next absent =>
    simp only [Option.some.injEq, Prod.mk.injEq] at answer
    exact .inl ⟨absent, answer.1.symm, answer.2.symm⟩
  next player found =>
    simp only [Option.map_eq_some_iff, Prod.mk.injEq] at answer
    obtain ⟨⟨outcome, reached, shown⟩, taken, turned, replaced⟩ := answer
    exact .inr ⟨player, outcome, reached, shown, found, taken, turned.symm, replaced.symm⟩

theorem exists_start {id : PlayerId} (answer : session.perform (.start id) = some later) :
    ∃ result, session.start id = some (result, later) := by
  simp only [perform, Option.map_eq_some_iff] at answer
  obtain ⟨⟨result, reached⟩, started, rfl⟩ := answer
  exact ⟨result, started⟩

/-- To play an act is to load it and to start its player. -/
theorem exists_start_of_play {act : Act} (answer : session.perform (.play act) = some later) :
    ∃ result, (session.load act).2.start (session.load act).1 = some (result, later) := by
  simp only [perform, play, Option.map_map, Option.map_eq_some_iff] at answer
  obtain ⟨⟨result, reached⟩, started, rfl⟩ := answer
  exact ⟨result, started⟩

namespace Ticks

theorem delivered {token : Token} {clock : TimerQueue} (ticks : Ticks window I)
    (holds : I session log) (taken : session.stage.clock.pop? window = some (token, clock))
    (delivery : (session.popped clock).deliver token = some later) :
    I later (log ++ (session.popped clock).deliverMoments token) := by
  unfold deliver at delivery
  unfold deliverMoments
  split at delivery
  next absent =>
    rw [← Option.some.inj delivery]
    simpa only [absent, List.append_nil] using ticks.drop holds taken absent
  next player found =>
    simp only [Option.map_eq_some_iff] at delivery
    obtain ⟨⟨reached, stage⟩, driven, rfl⟩ := delivery
    simpa only [found] using ticks.timer holds taken found driven

theorem fired {deliveries : Nat} (ticks : Ticks window I) (holds : I session log)
    (answer : session.fire deliveries window = some later) :
    I later (log ++ session.fireMoments deliveries window) := by
  induction deliveries generalizing session log with
  | zero =>
    rw [← Option.some.inj answer, fireMoments, List.append_nil]
    exact holds
  | succ deliveries ih =>
    unfold fire at answer
    unfold fireMoments
    split at answer
    next idle =>
      rw [← Option.some.inj answer]
      simpa only [idle, List.append_nil] using holds
    next token clock taken =>
      split at answer
      next => simp at answer
      next reached delivery =>
        have rest := ih (ticks.delivered holds taken delivery) answer
        have same : (session.popped clock).deliver token = some reached := delivery
        simpa only [taken, same, List.append_assoc] using rest

end Ticks

/-- What deliveries and the end of a window keep is kept while time passes. -/
theorem Passes.of_ticks (ticks : ∀ window, Ticks window I)
    (close : ∀ {session log} (window : Window), I session log → I (session.closed window) log) :
    Passes I := by
  refine ⟨fun {session log target later} holds answer => ?_⟩
  unfold advanceTo fireWindow at answer
  rw [Option.map_eq_some_iff] at answer
  obtain ⟨reached, fired, rfl⟩ := answer
  exact close _ ((ticks _).fired holds fired)

theorem Passes.settled {last rounds : Nat} (passes : Passes I) (holds : I session log)
    (answer : session.settle last rounds = some later) :
    I later (log ++ session.settleMoments last rounds) := by
  fun_induction settle last rounds session generalizing log with
  | case1 rounds session idle =>
    rw [settleMoments, idle, List.append_nil, ← Option.some.inj answer]
    exact holds
  | case2 rounds session deadline next past =>
    rw [settleMoments, next]
    simp only [if_pos past, List.append_nil]
    exact Option.some.inj answer ▸ holds
  | case3 => simp at answer
  | case4 rounds session deadline next near reached advanced moved ih =>
    rw [settleMoments, next]
    simp only [if_neg near, advanced, if_pos moved]
    rw [← List.append_assoc]
    exact ih (passes.pass holds advanced) answer
  | case5 rounds session deadline next near reached advanced still spent =>
    rw [settleMoments, next]
    simp only [if_neg near, advanced, if_neg still, if_pos spent, List.append_nil]
    exact Option.some.inj answer ▸ passes.pass holds advanced
  | case6 rounds session deadline next near reached advanced still more ih =>
    rw [settleMoments, next]
    simp only [if_neg near, advanced, if_neg still, if_neg more]
    rw [← List.append_assoc]
    exact ih (passes.pass holds advanced) answer

theorem Passes.advanced {delay : Nat} (passes : Passes I) (holds : I session log)
    (answer : session.advance delay = some later) :
    I later (log ++ session.moments (.advance delay)) := by
  simp only [Session.advance, TimerQueue.windowBy?, Option.bind_eq_some_iff,
    Option.map_eq_some_iff] at answer
  obtain ⟨window, ⟨target, within, rfl⟩, fired⟩ := answer
  simpa only [moments, TimerQueue.windowBy?, within, Option.map_some] using passes.pass holds fired

theorem Passes.idled {limit : Nat} (passes : Passes I) (holds : I session log)
    (answer : (session.runUntilIdle limit).map Prod.snd = some later) :
    I later (log ++ session.moments (.runUntilIdle limit)) := by
  rw [Option.map_eq_some_iff] at answer
  obtain ⟨⟨passed, reached⟩, ran, rfl⟩ := answer
  simp only [runUntilIdle, Option.bind_eq_bind, Option.bind_eq_some_iff, Option.some.injEq,
    Prod.mk.injEq] at ran
  obtain ⟨last, within, other, settled, -, rfl⟩ := ran
  simpa only [moments, within] using passes.settled holds settled

namespace Steady

theorem stopped (steady : Steady I) (holds : I session log) (id : PlayerId) :
    I (session.stop id).2 log := by
  unfold Session.stop
  split
  next => exact holds
  next player found => exact steady.stop holds found

theorem unloaded (steady : Steady I) (holds : I session log) (id : PlayerId) :
    I (session.unload id).2 log := by
  unfold Session.unload
  split
  next => exact holds
  next player found =>
    exact steady.remove id (steady.stopped holds id) (session.stop_idle id)

theorem allStopped (steady : Steady I) (holds : I session log) : I session.stopAll log := by
  unfold stopAll
  generalize session.players.map Player.id = ids
  induction ids generalizing session with
  | nil => exact holds
  | cons id rest ih => exact ih (steady.stopped holds id)

theorem performed {request : Request ω} (steady : Steady I) (quiet : request.IsSteady)
    (holds : I session log) (answer : session.perform request = some later) :
    I later (log ++ session.moments request) := by
  have silent (holds : I later log) (none : session.moments request = []) :
      I later (log ++ session.moments request) := by
    rw [none, List.append_nil]
    exact holds
  cases request with
  | load | play | start => exact quiet.elim
  | unload player =>
    obtain rfl := Option.some.inj answer
    exact silent (steady.unloaded holds player) rfl
  | stop player =>
    obtain rfl := Option.some.inj answer
    exact silent (steady.stopped holds player) rfl
  | stopAll =>
    obtain rfl := Option.some.inj answer
    exact silent (steady.allStopped holds) rfl
  | advance delay => exact steady.advanced holds answer
  | advanceTo target => exact steady.pass holds answer
  | runUntilIdle limit => exact steady.idled holds answer
  | changeSignals change =>
    obtain rfl := Option.some.inj answer
    exact silent (steady.restage _ holds rfl rfl) rfl
  | changeScenes change =>
    obtain rfl := Option.some.inj answer
    exact silent (steady.restage _ holds rfl rfl) rfl
  | changeOutput change =>
    obtain rfl := Option.some.inj answer
    exact silent (steady.restage _ holds rfl rfl) rfl
  | changeBus change =>
    obtain rfl := Option.some.inj answer
    exact silent (steady.restage _ holds rfl rfl) rfl

end Steady

namespace Lasting

theorem started {id : PlayerId} {result : Except SessionError Unit} (lasting : Lasting I)
    (holds : I session log) (answer : session.start id = some (result, later)) :
    I later (log ++ session.startMoments id) := by
  unfold startMoments
  rcases start_cases answer with
    ⟨absent, -, rfl⟩ | ⟨player, outcome, reached, stage, found, taken, -, rfl⟩
  · simpa only [absent, List.append_nil] using holds
  · simpa only [found] using lasting.start holds found taken

theorem performed {request : Request ω} (lasting : Lasting I) (holds : I session log)
    (answer : session.perform request = some later) :
    I later (log ++ session.moments request) := by
  cases request with
  | load act =>
    obtain rfl := Option.some.inj answer
    simpa only [moments, List.append_nil] using lasting.load act holds
  | play act =>
    obtain ⟨result, started⟩ := exists_start_of_play answer
    exact lasting.started (lasting.load act holds) started
  | start player =>
    obtain ⟨result, started⟩ := exists_start answer
    exact lasting.started holds started
  | _ => exact lasting.toSteady.performed trivial holds answer

theorem run (lasting : Lasting I) (run : session.Run log) : I session log := by
  induction run with
  | create output scenes settings seeding => exact lasting.create output scenes settings seeding
  | perform before request answer ih => exact lasting.performed ih answer

end Lasting

namespace Kept

theorem ticks (kept : Kept I) (window : Window) : Ticks window I :=
  ⟨kept.drop, kept.timer⟩

theorem lasting (kept : Kept I) : Lasting I where
  restage := kept.restage
  remove := kept.remove
  stop := kept.stop
  toPasses := .of_ticks kept.ticks kept.close
  create := kept.create
  load := kept.load
  start := kept.start

theorem run (kept : Kept I) (run : session.Run log) : I session log := kept.lasting.run run

theorem firing (kept : Kept I) (holds : I session log)
    (firing : Firing window session later) : ∃ reached, I later reached := by
  induction firing with
  | opened => exact ⟨log, holds⟩
  | delivered before taken delivery ih =>
    obtain ⟨reached, holds⟩ := ih
    exact ⟨_, (kept.ticks window).delivered holds taken delivery⟩

end Kept

end Session

end LightingDesk
