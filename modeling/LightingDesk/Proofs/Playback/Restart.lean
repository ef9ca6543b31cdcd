import LightingDesk.Proofs.Playback.Career
import LightingDesk.Proofs.Playback.Legacies
import LightingDesk.Proofs.Playback.Schedule

/-!
A restart. Nothing of the earlier playbacks of a player goes on into the next one: from a start on, a session
does all that it would do if the player had just been loaded, and only the numbers that tell how many
playbacks and steps there were are not the same (`Session.Reachable.restart_forgets`).
-/

namespace LightingDesk

/-! ### The legacy of a player -/

/-- What an idle player has of its earlier playbacks. -/
def Player.legacy (player : Player) : Legacy where
  generations id := if id = player.id then player.generation else 0
  steps id := if id = player.id then player.steps else 0
  depth id := if id = player.id then player.maxDepth else 0
  generator? id := if id = player.id then some player.generator else none

/-- The player as it was loaded, but for its random numbers. -/
def Player.renewed (player : Player) (seeding : Seeding) : Player :=
  .load player.id player.act player.settings seeding

namespace Player

variable (player : Player) (seeding : Seeding)

omit seeding in
theorem isNone_legacy {id : PlayerId} (other : id ≠ player.id) : player.legacy.IsNone id :=
  ⟨if_neg other, if_neg other, if_neg other, if_neg other⟩

/-- Apart from what tells its age, a player with its legacy is as it was loaded. -/
theorem legacy_renewed : player.legacy.ofPlayer (player.renewed seeding) =
    { player.renewed seeding with
      generator := player.generator
      generation := player.generation
      maxDepth := player.maxDepth
      steps := player.steps } := by
  simp only [Legacy.ofPlayer, legacy, renewed, load, Legacy.ofGenerator, if_true, Nat.zero_add,
    Nat.max_zero, Generator.resumed, Seeding.generator, Generator.fresh, List.nil_append]

variable {ω : Type} [Output ω] {player} (stage : Stage TimerQueue ω)

omit [Output ω] in
theorem stop_of_idle (idle : player.playing = false) : player.stop stage = (player, stage) := by
  rw [stop, if_neg (by simp [idle])]

theorem start_stopped (player : Player) (stage : Stage TimerQueue ω) :
    (player.stop stage).1.start (player.stop stage).2 = player.start stage := by
  rw [start_eq, start_eq, stop_of_idle _ (player.stop_playing stage)]

omit [Output ω] in
theorem trace_stop (player : Player) (stage : Stage TimerQueue ω) :
    (player.stop stage).2.trace.toList = stage.trace.toList ++
      player.farewell.map fun event => ⟨stage.clock.now, player.id, .event event⟩ := by
  unfold stop farewell
  split
  · unfold finish
    cases player.waiting with
    | none => exact Array.toList_push
    | some wait => exact Array.toList_push
  · exact (List.append_nil _).symm

/-- A start makes the same of an idle player as of one with its legacy that was just loaded. -/
theorem start_legacy (idle : player.playing = false) (free : player.waiting = none)
    (empty : player.act.startId? = none → ∃ other, player = player.renewed other) :
    (player.legacy.ofPlayer (player.renewed seeding)).start stage = player.start stage := by
  have begun : ((player.legacy.ofPlayer (player.renewed seeding)).begun stage).burst stage true =
      (player.begun stage).burst stage true := by
    rw [legacy_renewed]
    simp only [Player.begun, burst, renewed, load, Bool.true_or, if_true, free]
  have plays : (player.legacy.ofPlayer (player.renewed seeding)).act = player.act := rfl
  rw [start_eq, start_eq, stop_of_idle _ idle, stop_of_idle _ rfl]
  dsimp only
  rw [plays]
  cases found : player.act.startId? with
  | none =>
    have aged : player.legacy.ofPlayer (player.renewed seeding) = player := by
      obtain ⟨other, same⟩ := empty found
      rw [legacy_renewed, same]
      rfl
    rw [aged]
  | some node =>
    exact congrArg (fun player : Player => (run (player.settings.budget - player.burstSteps) player stage
      (.enter node)).map fun moved => ((.ok () : Except Fault Unit), moved.1, moved.2)) begun

end Player

theorem Player.idle_of_renewed {player : Player} (fresh : ∃ seeding, player = player.renewed seeding) :
    player.playing = false := by
  obtain ⟨seeding, same⟩ := fresh
  exact congrArg Player.playing same

/-- An act without a start node leaves its player as it was loaded. -/
theorem Life.exists_renewed {σ ω : Type} [Scheduler σ] [Output ω] {id : PlayerId} {act : Act}
    {player : Player} {log : List (Moment σ ω)} (life : Life id act player log)
    (empty : act.startId? = none) : ∃ seeding, player = player.renewed seeding := by
  induction life with
  | load settings seeding => exact ⟨seeding, rfl⟩
  | start before stage answer ih =>
    have idle := Player.idle_of_renewed ih
    rcases Player.start_cases answer with ⟨-, -, rfl, -⟩ | ⟨node, found, -⟩
    · rw [Player.stop_fst, if_neg (by simp [idle])]
      exact ih
    · rw [before.chronicle.plays, empty] at found
      cases found
  | stop before stage ih =>
    have idle := Player.idle_of_renewed ih
    rw [Player.stop_fst, if_neg (by simp [idle])]
    exact ih
  | timer before stage token answer ih =>
    have idle := Player.idle_of_renewed ih
    rcases Player.timer_cases answer with ⟨rfl, -⟩ | ⟨wait, -, playing, -⟩
    · exact ih
    · rw [idle] at playing
      cases playing

/-! ### Age -/

/-- The timer of a player without the number of its playback. -/
def Timer.ageless (id : PlayerId) (timer : Timer) : Timer :=
  if timer.token.player = id then { timer with token := ⟨id, 0⟩ } else timer

/-- A player without what tells its age: how many playbacks it has had, what it has drawn, how deep it has
come and how many steps it has taken. -/
def Player.ageless (id : PlayerId) (player : Player) : Player :=
  if player.id = id then
    { player with generator := default, generation := 0, maxDepth := 0, steps := 0 }
  else player

namespace Legacy

variable {id : PlayerId} (legacy : Legacy) (only : ∀ other ≠ id, legacy.IsNone other)
include only

theorem ageless_ofTimer (timer : Timer) : (legacy.ofTimer timer).ageless id = timer.ageless id := by
  by_cases own : timer.token.player = id
  · rw [Timer.ageless, Timer.ageless, if_pos own,
      if_pos (show (legacy.ofTimer timer).token.player = id from own)]
    rfl
  · simp only [ofTimer, ofToken, (only _ own).generations, Nat.add_zero]

theorem ageless_ofPlayer (player : Player) :
    (legacy.ofPlayer player).ageless id = player.ageless id := by
  by_cases own : player.id = id
  · rw [Player.ageless, Player.ageless, id_ofPlayer, if_pos own, if_pos own]
    rfl
  · rw [legacy.ofPlayer_of_isNone (only _ own)]

end Legacy

namespace Session

variable {ω : Type}

/-- The session when a player has been stopped and then loaded anew. -/
def renewed (session : Session ω) (id : PlayerId) (seeding : Seeding) : Session ω :=
  let stopped := (session.stop id).2
  { stopped with
    players := stopped.players.map fun player =>
      if player.id = id then player.renewed seeding else player }

/-- The session without what tells the age of a player. What it has written and reported, and when, what
it waits for and where its trackers stand is left as it is. -/
def ageless (id : PlayerId) (session : Session ω) : Session ω :=
  { session with
    stage := session.stage.withClock
      { session.stage.clock with pending := session.stage.clock.pending.map (Timer.ageless id) }
    players := session.players.map (Player.ageless id) }

theorem ageless_ofSession {legacy : Legacy} {id : PlayerId}
    (only : ∀ other ≠ id, legacy.IsNone other) (session : Session ω) :
    ageless id (legacy.ofSession session) = ageless id session := by
  simp only [ageless, Legacy.ofSession, Legacy.ofStage, Legacy.ofClock, Stage.withClock,
    List.map_map, Session.mk.injEq, Stage.mk.injEq, TimerQueue.mk.injEq, true_and, and_true]
  exact ⟨List.map_congr_left fun timer _ => legacy.ageless_ofTimer only timer,
    List.map_congr_left fun player _ => legacy.ageless_ofPlayer only player⟩

variable [Output ω] {session : Session ω} {id : PlayerId} {player : Player}

omit [Output ω] in
theorem stop_of_player? (found : session.player? id = some player) : (session.stop id).2 =
    session.replace (player.stop session.stage).1 (player.stop session.stage).2 := by
  rw [Session.stop, found]

omit [Output ω] in
theorem player?_stop (found : session.player? id = some player) :
    (session.stop id).2.player? id = some (player.stop session.stage).1 := by
  have named : (player.stop session.stage).1.id = id := (player.stop_id _).trans (id_of_player? found)
  rw [stop_of_player? found, player?_replace (named ▸ found), if_pos named.symm]

theorem Lives.id_of_start {log : List (Moment TimerQueue ω)} {result : Except Fault Unit}
    {later : Player} {stage : Stage TimerQueue ω} (lives : Lives session log)
    (found : session.player? id = some player)
    (answer : player.start session.stage = some (result, later, stage)) : later.id = id := by
  obtain ⟨act, life⟩ := lives.life found
  exact (life.start _ answer).chronicle.named

/-- A start depends on a session only by its stage and the player, and replaces the player. -/
theorem start_congr {other : Session ω} (moved : Player) (found : session.player? id = some player)
    (there : other.player? id = some moved)
    (starts : moved.start other.stage = player.start session.stage)
    (named : ∀ {result later stage}, player.start session.stage = some (result, later, stage) →
      later.id = id)
    (settings : other.settings = session.settings) (draws : other.seeding = session.seeding)
    (next : other.nextPlayer = session.nextPlayer)
    (others : ∀ player : Player, player.id = id →
      other.players.map (fun other => if other.id == id then player else other) =
        session.players.map fun other => if other.id == id then player else other) :
    other.start id = session.start id := by
  rw [Session.start, Session.start, found, there]
  dsimp only
  rw [starts]
  cases answer : player.start session.stage with
  | none => rfl
  | some moved =>
    obtain ⟨result, later, stage⟩ := moved
    have named := named answer
    simp only [Option.map_some, replace, named, settings, draws, next, others later named]

omit [Output ω] in
theorem replace_replace (session : Session ω) {player later : Player} (same : player.id = later.id)
    (stage shown : Stage TimerQueue ω) :
    (session.replace player stage).replace later shown = session.replace later shown := by
  simp only [replace, List.map_map, Session.mk.injEq, true_and, and_true]
  refine List.map_congr_left fun other _ => ?_
  rw [Function.comp_apply, same]
  split
  next => rw [same, if_pos (beq_self_eq_true _)]
  next => rfl

omit [Output ω] in
theorem renewed_of_player? (found : session.player? id = some player) (seeding : Seeding) :
    session.renewed id seeding =
      session.replace ((player.stop session.stage).1.renewed seeding)
        (player.stop session.stage).2 := by
  have named : (player.stop session.stage).1.id = id := (player.stop_id _).trans (id_of_player? found)
  rw [renewed, stop_of_player? found]
  simp only [replace, List.map_map, Session.mk.injEq, true_and, and_true]
  refine List.map_congr_left fun other _ => ?_
  have same : ((player.stop session.stage).1.renewed seeding).id = id := named
  rw [Function.comp_apply, named, same]
  split
  next => rfl
  next different => rw [if_neg (by simpa using different)]

/-- A start comes to the same as a stop and a start. -/
theorem Lives.start_stop {log : List (Moment TimerQueue ω)} (lives : Lives session log)
    (found : session.player? id = some player) : (session.stop id).2.start id = session.start id := by
  have named : (player.stop session.stage).1.id = id := (player.stop_id _).trans (id_of_player? found)
  rw [stop_of_player? found]
  refine start_congr _ found ?_ (player.start_stopped session.stage) (lives.id_of_start found) rfl rfl
    rfl ?_
  · rw [← stop_of_player? found]
    exact player?_stop found
  · rintro later rfl
    exact congrArg Session.players (session.replace_replace named _ session.stage)

omit [Output ω] in
/-- A legacy does not show in the timers of others. -/
theorem ofStage_of_free {legacy : Legacy} (only : ∀ other ≠ id, legacy.IsNone other)
    {stage : Stage TimerQueue ω} (free : stage.clock.timersOf id = []) :
    legacy.ofStage stage = stage := by
  have same : ∀ timer ∈ stage.clock.pending, legacy.ofTimer timer = timer := by
    intro timer armed
    have foreign : timer.token.player ≠ id := by
      simpa using List.filter_eq_nil_iff.1 free timer armed
    simp only [Legacy.ofTimer, Legacy.ofToken, (only _ foreign).generations, Nat.add_zero]
  have timers : stage.clock.pending.map legacy.ofTimer = stage.clock.pending :=
    (List.map_congr_left same).trans (List.map_id' _)
  simp only [Legacy.ofStage, Legacy.ofClock, timers]

omit [Output ω] in
/-- Nor does it show when its player is replaced. -/
theorem players_ofSession {legacy : Legacy} {later : Player}
    (only : ∀ other ≠ later.id, legacy.IsNone other) :
    (legacy.ofSession session).players.map (fun other => if other.id == later.id then later else other) =
      session.players.map fun other => if other.id == later.id then later else other := by
  rw [Legacy.ofSession, List.map_map]
  refine List.map_congr_left fun other _ => ?_
  rw [Function.comp_apply, Legacy.id_ofPlayer]
  split
  next => rfl
  next different => exact legacy.ofPlayer_of_isNone (only _ (by simpa using different))

/-- A start comes to the same as that of the player anew, with its legacy. -/
theorem Tied.start_renewed {log : List (Moment TimerQueue ω)} (tied : Tied session log)
    (found : session.player? id = some player) (seeding : Seeding) :
    ((player.stop session.stage).1.legacy.ofSession (session.renewed id seeding)).start id =
      session.start id := by
  obtain ⟨act, life⟩ := tied.life found
  have chronicle := (life.stop session.stage).chronicle
  have empty := (life.stop session.stage).exists_renewed
  have idle := player.stop_playing session.stage
  have starts := player.start_stopped session.stage
  have renewed := renewed_of_player? found seeding
  have free := (tied.stop_serves found).1.own
  have named := chronicle.named
  generalize (player.stop session.stage).1 = ended at *
  generalize (player.stop session.stage).2 = shown at *
  have only : ∀ other ≠ id, ended.legacy.IsNone other := fun other different =>
    ended.isNone_legacy (named.symm ▸ different)
  have same : ended.legacy.ofSession (session.renewed id seeding) =
      (ended.legacy.ofSession session).replace (ended.legacy.ofPlayer (ended.renewed seeding)) shown := by
    rw [renewed, ← Legacy.replace_ofSession, ofStage_of_free only free]
  have named' : (ended.legacy.ofPlayer (ended.renewed seeding)).id = id := named
  have aged : (ended.legacy.ofSession session).player? (ended.legacy.ofPlayer (ended.renewed seeding)).id =
      some (ended.legacy.ofPlayer player) := by
    rw [named', Legacy.player?_ofSession, found, Option.map_some]
  rw [same]
  refine start_congr (ended.legacy.ofPlayer (ended.renewed seeding)) found ?_ ?_ (tied.id_of_start found)
    rfl rfl rfl ?_
  · rw [player?_replace aged, if_pos named'.symm]
  · refine (Player.start_legacy seeding shown idle (chronicle.idles idle).1
      fun absent => empty ?_).trans starts
    rw [← chronicle.plays]
    exact absent
  · rintro later rfl
    have replaced := (ended.legacy.ofSession session).replace_replace named' shown shown
    exact (congrArg Session.players replaced).trans (players_ofSession only)

theorem Lives.fits_renewed {log : List (Moment TimerQueue ω)} (lives : Lives session log)
    (found : session.player? id = some player) (predictable : player.act.IsPredictable)
    (seeding : Seeding) : (player.stop session.stage).1.legacy.Fits (session.renewed id seeding) := by
  have named : (player.stop session.stage).1.id = id := (player.stop_id _).trans (id_of_player? found)
  have acts : (player.stop session.stage).1.act = player.act := player.stop_act _
  have numbered : id.number < session.nextPlayer :=
    id_of_player? found ▸ lives.numbered player (mem_of_player? found)
  rw [renewed_of_player? found seeding]
  generalize (player.stop session.stage).1 = ended at *
  refine ⟨fun other member => ?_, fun number bound => ended.isNone_legacy ?_⟩
  · rcases mem_replace member with rfl | ⟨member, different⟩
    · exact ⟨_, ended.act, [], .load .., .inr (acts ▸ predictable)⟩
    · obtain ⟨act, life⟩ := lives.living other member
      exact ⟨_, act, _, life, .inl (ended.isNone_legacy different).generator⟩
  · intro same
    rw [named] at same
    rw [← same] at numbered
    exact Nat.not_lt.2 bound numbered

/-- Whatever has happened to a player of a predictable act, a start makes it forget. It comes to the same as
a stop and a start. The stop reports no more than the end of a playback and takes the timer of the player
away; if the player is loaded anew right after it, the start is answered alike, and so is all that a host
asks for from then on: the sessions differ in nothing but the age of the player. -/
theorem Reachable.restart_forgets (reachable : session.Reachable)
    (found : session.player? id = some player) (predictable : player.act.IsPredictable)
    (seeding : Seeding) :
    (session.stop id).2.start id = session.start id ∧
    (session.stop id).2.stage.trace.toList = session.stage.trace.toList ++
      player.farewell.map (fun event => ⟨session.now, id, .event event⟩) ∧
    TimerQueue.Serves id [] session.stage.clock (session.stop id).2.stage.clock ∧
    (session.start id).map Prod.fst = ((session.renewed id seeding).start id).map Prod.fst ∧
    ∀ requests : List (Request ω),
      (session.performAll (.start id :: requests)).map (ageless id) =
        ((session.renewed id seeding).performAll (.start id :: requests)).map (ageless id) := by
  obtain ⟨log, run⟩ := reachable
  have tied := Tied.kept.run run
  have starts := tied.start_renewed found seeding
  have fits := tied.fits_renewed found predictable seeding
  have serves := (tied.stop_serves found).1
  have named := id_of_player? found
  refine ⟨tied.start_stop found, ?_, ?_, ?_, fun requests => ?_⟩
  · rw [stop_of_player? found, ← named]
    exact player.trace_stop session.stage
  · rw [stop_of_player? found]
    exact serves
  · rw [← starts, Legacy.start_ofSession _ fits, Option.map_map]
    rfl
  · have same : session.performAll (.start id :: requests) =
        ((player.stop session.stage).1.legacy.ofSession (session.renewed id seeding)).performAll
          (.start id :: requests) := by
      rw [performAll, performAll, List.foldlM_cons, List.foldlM_cons, perform, perform, starts]
    rw [same, Legacy.performAll_ofSession fits, Option.map_map]
    congr 1
    funext later
    refine ageless_ofSession (fun other different => Player.isNone_legacy _ ?_) later
    rwa [Player.stop_id, named]

/-- A player that is started anew while its tracker stands at another child than the first. -/
theorem restart_forgets_selfNested :
    ∃ session : Session Universe, ∃ player, session.Reachable ∧
      session.player? ⟨1⟩ = some player ∧ player.playing = true ∧
      player.memory.stored? ⟨"outer"⟩ = some ⟨1, .forward⟩ ∧
      (session.stop ⟨1⟩).2.start ⟨1⟩ = session.start ⟨1⟩ ∧
      ∀ requests : List (Request Universe),
        (session.performAll (.start ⟨1⟩ :: requests)).map (ageless ⟨1⟩) =
          ((session.renewed ⟨1⟩ session.seeding).performAll (.start ⟨1⟩ :: requests)).map
            (ageless ⟨1⟩) := by
  have reached : (((Session.bare 3).perform (.play .selfNested)).bind fun session =>
      session.perform (.advance (Span.ofMilliseconds 5))).bind
        (fun session => (session.player? ⟨1⟩).map fun player =>
          (player.playing, player.memory.stored? ⟨"outer"⟩, player.act)) =
      some (true, some ⟨1, .forward⟩, .selfNested) := rfl
  simp only [Option.bind_eq_some_iff, Option.map_eq_some_iff, Prod.mk.injEq] at reached
  obtain ⟨session, ⟨before, played, advanced⟩, player, found, playing, stored, plays⟩ := reached
  have reachable : session.Reachable :=
    ⟨_, .perform (.perform (.bare 3) (.play .selfNested) played) _ advanced⟩
  have predictable : player.act.IsPredictable := by
    rw [plays]
    intro node listed payload tracker random
    simp only [Act.selfNested, List.mem_cons, List.not_mem_nil, or_false] at listed
    rcases listed with rfl | rfl
    · obtain rfl := NodeKind.tracker.inj tracker
      cases random
    · cases tracker
  have restarts := reachable.restart_forgets found predictable session.seeding
  exact ⟨session, player, reachable, found, playing, stored, restarts.1, restarts.2.2.2.2⟩

end Session

end LightingDesk
