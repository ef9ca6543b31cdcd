import LightingDesk.Proofs.Playback.Moves

/-!
The cast of a session: its players, each with the act that it plays. Only loading an act adds to it, and
only taking a player out makes it smaller (`Session.Lives.cast_perform`).
-/

namespace LightingDesk

/-- The request takes a player out. -/
def Request.Unloads {ω : Type} : Request ω → Prop
  | .unload _ => True
  | _ => False

namespace Session

variable {ω : Type}

/-- The loaded players and their acts, in the order in which they were loaded. -/
def cast (session : Session ω) : List (PlayerId × Act) :=
  session.players.map fun player => (player.id, player.act)

theorem mem_cast {session : Session ω} {id : PlayerId} {act : Act} : (id, act) ∈ session.cast ↔
    ∃ player ∈ session.players, player.id = id ∧ player.act = act := by
  simp [cast]

theorem playerFor?_eq (session : Session ω) (act : ActId) : session.playerFor? act =
    (session.cast.find? fun entry => entry.2.id == act).map Prod.fst := by
  rw [playerFor?, cast, List.find?_map, Option.map_map]
  rfl

/-- Who plays an act goes on playing it, whoever is loaded later. -/
theorem playerFor?_of_prefix {session later : Session ω} {act : ActId} {id : PlayerId}
    (grown : session.cast <+: later.cast) (plays : session.playerFor? act = some id) :
    later.playerFor? act = some id := by
  obtain ⟨added, all⟩ := grown
  rw [playerFor?_eq, Option.map_eq_some_iff] at plays ⊢
  obtain ⟨entry, found, named⟩ := plays
  refine ⟨entry, ?_, named⟩
  rw [← all, List.find?_append, found]
  rfl

theorem exists_player_of_playerFor? {session : Session ω} {act : ActId} {id : PlayerId}
    (plays : session.playerFor? act = some id) :
    ∃ player ∈ session.players, player.id = id ∧ player.act.id = act := by
  obtain ⟨player, found, named⟩ := Option.map_eq_some_iff.1 plays
  exact ⟨player, List.mem_of_find?_eq_some found, named, by simpa using List.find?_some found⟩

theorem playerFor?_eq_none {session : Session ω} {act : ActId} (none : session.playerFor? act = none)
    {player : Player} (member : player ∈ session.players) : player.act.id ≠ act := by
  rw [playerFor?, Option.map_eq_none_iff, List.find?_eq_none] at none
  simpa using none player member

theorem cast_load (session : Session ω) (act : Act) :
    (session.load act).2.cast = session.cast ++ [((session.load act).1, act)] := by
  rw [cast, load, List.map_append]
  rfl

variable [Output ω] {session later : Session ω} {log : List (Moment TimerQueue ω)}

theorem Lives.act_of_mem_cast {player : Player} {act : Act} (lives : Lives session log)
    (listed : (player.id, act) ∈ session.cast) (member : player ∈ session.players) :
    player.act = act := by
  obtain ⟨other, present, named, same⟩ := mem_cast.1 listed
  rw [← same, List.inj_on_of_nodup_map lives.distinct present member named]

theorem Lives.cast_replace {id : PlayerId} {player reached : Player} (lives : Lives session log)
    (found : session.player? id = some player) (named : reached.id = player.id)
    (plays : reached.act = player.act) (stage : Stage TimerQueue ω) :
    (session.replace reached stage).cast = session.cast := by
  rw [cast, cast, Session.replace, List.map_map]
  apply List.map_congr_left
  intro other member
  rw [Function.comp_apply]
  split
  next same =>
    have own : other.id = player.id := (beq_iff_eq.1 same).trans named
    rw [List.inj_on_of_nodup_map lives.distinct member (mem_of_player? found) own, named, plays]
  next => rfl

theorem Lives.cast_call {id : PlayerId} {player reached : Player} {stage shown : Stage TimerQueue ω}
    (lives : Lives session log) (call : Call) (found : session.player? id = some player)
    (answer : player.answer stage call = some (reached, shown)) :
    (session.replace reached shown).cast = session.cast := by
  have responds := lives.responds found answer
  exact lives.cast_replace found responds.id responds.act shown

/-- A session in which some players have lived, with a cast that is known. -/
def Casts (roles : List (PlayerId × Act)) (session : Session ω) (log : List (Moment TimerQueue ω)) :
    Prop :=
  Lives session log ∧ session.cast = roles

theorem Casts.passes (roles : List (PlayerId × Act)) : Passes (Casts (ω := ω) roles) := by
  refine .of_ticks (fun window => ⟨?_, ?_⟩) ?_
  · rintro session log token clock ⟨lives, same⟩ - -
    exact ⟨lives.restage _, same⟩
  · rintro session log token clock player later stage ⟨lives, same⟩ - found answer
    refine ⟨lives.timer found answer, ?_⟩
    rw [← same]
    exact (lives.restage _).cast_call (.timer token) found answer
  · rintro session log window ⟨lives, same⟩
    exact ⟨lives.restage _, same⟩

theorem Lives.cast_start {id : PlayerId} {result : Except SessionError Unit} (lives : Lives session log)
    (answer : session.start id = some (result, later)) : later.cast = session.cast := by
  rcases start_cases answer with
    ⟨-, -, rfl⟩ | ⟨player, outcome, reached, shown, found, taken, -, rfl⟩
  · rfl
  · exact lives.cast_call .start found (Player.answer_start taken)

theorem Lives.cast_stop (lives : Lives session log) (id : PlayerId) :
    (session.stop id).2.cast = session.cast := by
  unfold Session.stop
  split
  next => rfl
  next player found =>
    have answered : player.answer session.stage .stop = some (player.stop session.stage) := rfl
    exact lives.cast_call .stop found answered

theorem Lives.stopped (lives : Lives session log) (id : PlayerId) : Lives (session.stop id).2 log := by
  unfold Session.stop
  split
  next => exact lives
  next player found => exact lives.stop found

theorem Lives.cast_stopAll (lives : Lives session log) : session.stopAll.cast = session.cast := by
  unfold stopAll
  generalize session.players.map Player.id = ids
  induction ids generalizing session with
  | nil => rfl
  | cons id rest ih => exact (ih (lives.stopped id)).trans (lives.cast_stop id)

/-- A request adds the players that it loads, and leaves the others with their acts. -/
theorem Lives.cast_perform (lives : Lives session log) (request : Request ω)
    (stays : ¬request.Unloads) (answer : session.perform request = some later) :
    later.cast = session.cast ++ session.loads request := by
  have casts : Casts session.cast session log := ⟨lives, rfl⟩
  have passes := Casts.passes (ω := ω) session.cast
  cases request with
  | load act => exact Option.some.inj answer ▸ session.cast_load act
  | unload => exact absurd trivial stays
  | play act =>
    obtain ⟨result, started⟩ := exists_start_of_play answer
    exact ((lives.load act).cast_start started).trans (session.cast_load act)
  | start id =>
    obtain ⟨result, started⟩ := exists_start answer
    exact (lives.cast_start started).trans (List.append_nil _).symm
  | stop id =>
    obtain rfl := Option.some.inj answer
    exact (lives.cast_stop id).trans (List.append_nil _).symm
  | stopAll =>
    obtain rfl := Option.some.inj answer
    exact lives.cast_stopAll.trans (List.append_nil _).symm
  | advance delay => exact (passes.advanced casts answer).2.trans (List.append_nil _).symm
  | advanceTo target => exact (passes.pass casts answer).2.trans (List.append_nil _).symm
  | runUntilIdle limit => exact (passes.idled casts answer).2.trans (List.append_nil _).symm
  | changeSignals | changeScenes | changeOutput | changeBus =>
    obtain rfl := Option.some.inj answer
    exact (List.append_nil _).symm

end Session

end LightingDesk
