import LightingDesk.Proofs.Playback.Protocol
import LightingDesk.Proofs.Playback.Restart

/-!
What is left of a request that a session refuses. A refused start, stop or unloading changes nothing but
what has been reported. An act that cannot be played, however, leaves the idle player that was loaded for
it (`Session.Reachable.refuses`): the session is as it was only when that player is taken out again.
-/

namespace LightingDesk

namespace Session

variable {ω : Type} [Output ω] {session later : Session ω} {id : PlayerId} {fault : SessionError}
  {act : Act} {log : List (Moment TimerQueue ω)}

/-- A later session differs in what has been reported, and in nothing else. -/
structure OnlyReports (session later : Session ω) : Prop where
  settings : later.settings = session.settings
  seeding : later.seeding = session.seeding
  players : later.players = session.players
  nextPlayer : later.nextPlayer = session.nextPlayer
  scenes : later.stage.scenes = session.stage.scenes
  signals : later.stage.signals = session.stage.signals
  clock : later.stage.clock = session.stage.clock
  output : later.stage.output = session.stage.output
  writes : later.writes = session.writes
  events : session.events <+: later.events

namespace OnlyReports

omit [Output ω] in
theorem refl (session : Session ω) : OnlyReports session session :=
  ⟨rfl, rfl, rfl, rfl, rfl, rfl, rfl, rfl, rfl, List.prefix_rfl⟩

omit [Output ω] in
theorem emit (session : Session ω) (event : Event) :
    OnlyReports session (session.mapStage fun stage => stage.emit event) where
  settings := rfl
  seeding := rfl
  players := rfl
  nextPlayer := rfl
  scenes := rfl
  signals := rfl
  clock := rfl
  output := rfl
  writes := by simp [Session.writes, mapStage, Stage.emit, TraceEntry.write?]
  events := by simp [Session.events, mapStage, Stage.emit, TraceEntry.event?]

end OnlyReports

/-- To put a player back as it was changes no player. -/
theorem Lives.replace_same {player : Player} (lives : Lives session log)
    (found : session.player? id = some player) (stage : Stage TimerQueue ω) :
    session.replace player stage = { session with stage } := by
  have same : (session.players.map fun other => if other.id == player.id then player else other) =
      session.players := by
    refine List.map_congr_left (fun other member => ?_) |>.trans (List.map_id _)
    split
    next named =>
      exact (List.inj_on_of_nodup_map lives.distinct member (mem_of_player? found)
        (beq_iff_eq.1 named)).symm
    next => rfl
  rw [Session.replace, same]

/-- A start is refused for want of a player or of nodes. -/
theorem Lives.start_refused (lives : Lives session log)
    (answer : session.start id = some (.error fault, later)) :
    (session.player? id = none ∧ fault = .unknownPlayer id ∧ later = session) ∨
    ∃ player, session.player? id = some player ∧ player.act.nodes = [] ∧ fault = .act .emptyGraph ∧
      later = session.mapStage fun stage =>
        stage.emit (.stopped id player.act.id (.fault .emptyGraph)) := by
  rcases Session.start_cases answer with
    ⟨absent, refused, same⟩ | ⟨player, result, reached, stage, found, started, refused, rfl⟩
  · exact .inl ⟨absent, Except.error.inj refused, same⟩
  · obtain ⟨act, life⟩ := lives.life found
    rcases Player.start_cases started with ⟨empty, rfl, rfl, rfl, -⟩ | ⟨node, -, rfl, -⟩
    · rw [life.chronicle.plays] at empty
      -- a player of an act without nodes has never been started
      have idle := Player.idle_of_renewed (life.exists_renewed empty)
      rw [Player.stop_of_idle _ idle, lives.replace_same found, id_of_player? found]
      refine .inr ⟨player, found, ?_, Except.error.inj refused, rfl⟩
      exact life.chronicle.plays ▸ Act.startId?_eq_none.1 empty
    · cases refused

omit [Output ω] in
theorem stop_refused (answer : session.stop id = (.error fault, later)) :
    session.player? id = none ∧ fault = .unknownPlayer id ∧ later = session := by
  unfold Session.stop at answer
  split at answer
  next absent =>
    simp only [Prod.mk.injEq, Except.error.injEq] at answer
    exact ⟨absent, answer.1.symm, answer.2.symm⟩
  next => simp at answer

omit [Output ω] in
theorem unload_refused (answer : session.unload id = (.error fault, later)) :
    session.player? id = none ∧ fault = .unknownPlayer id ∧ later = session := by
  unfold Session.unload at answer
  split at answer
  next absent =>
    simp only [Prod.mk.injEq, Except.error.injEq] at answer
    exact ⟨absent, answer.1.symm, answer.2.symm⟩
  next => simp at answer

/-- The player of an act that could not be played, and the session without it again. -/
structure Leaves (session later : Session ω) (act : Act) (player : Player) : Prop where
  fresh : player.id = ⟨session.nextPlayer⟩
  plays : player.act = act
  idle : player.playing = false
  players : later.players = session.players ++ [player]
  rest : OnlyReports (session.load act).2 later
  undone : ∃ restored, later.unload player.id = (.ok act, restored) ∧
    OnlyReports { session with nextPlayer := session.nextPlayer + 1 } restored

/-- Taking out an idle player changes nothing else. -/
theorem Lives.unload_idle {player : Player} (lives : Lives session log)
    (found : session.player? id = some player) (idle : player.playing = false) :
    session.unload id = (.ok player.act,
      { session with players := session.players.filter fun other => other.id != id }) := by
  rw [Session.unload, found, stop_of_player? found, Player.stop_of_idle _ idle,
    lives.replace_same found]

theorem Lives.play_refused (lives : Lives session log)
    (answer : session.play act = some (.error fault, later)) :
    act.nodes = [] ∧ fault = .act .emptyGraph ∧ ∃ player, Leaves session later act player := by
  simp only [Session.play, Option.map_eq_some_iff, Prod.mk.injEq] at answer
  obtain ⟨⟨result, reached⟩, started, refused, rfl⟩ := answer
  obtain rfl : result = .error fault := by
    cases result with
    | ok => cases refused
    | error => rw [Except.error.inj refused]
  have loaded := lives.load act
  have earlier : ∀ other ∈ session.players, other.id ≠ (session.load act).1 := by
    intro other member same
    have number := lives.numbered other member
    rw [same] at number
    exact Nat.lt_irrefl _ number
  obtain ⟨added, plays, idle, named, players⟩ : ∃ added : Player, added.act = act ∧
      added.playing = false ∧ added.id = (session.load act).1 ∧
      (session.load act).2.players = session.players ++ [added] := ⟨_, rfl, rfl, rfl, rfl⟩
  rcases loaded.start_refused started with ⟨unknown, -⟩ | ⟨player, found, empty, rfl, rfl⟩
  · have listed : added ∈ (session.load act).2.players :=
      players ▸ List.mem_append_right _ List.mem_cons_self
    exact absurd named (player?_eq_none.1 unknown added listed)
  · obtain rfl : player = added := by
      have listed := players ▸ mem_of_player? found
      rcases List.mem_append.1 listed with old | new
      · exact absurd (id_of_player? found) (earlier player old)
      · exact List.mem_singleton.1 new
    rw [plays] at empty
    have kept : (session.load act).2.players.filter (fun other => other.id != player.id) =
        session.players := by
      rw [players, List.filter_append, List.filter_eq_self.2 fun other member => by
        simpa [named] using earlier other member]
      simp
    let report : Event := .stopped (session.load act).1 player.act.id (.fault .emptyGraph)
    have reports := OnlyReports.emit (session.load act).2 report
    have undone := (loaded.restage ((session.load act).2.stage.emit report)).unload_idle
      (id_of_player? found ▸ found) idle
    rw [plays, kept] at undone
    exact ⟨empty, rfl, player, named, plays, idle, players, reports, _, undone,
      { reports with players := rfl }⟩

/-- A start that is refused adds nothing but a report, and a stop or an unloading that is refused not even
that. A player is missing then, or an act has no nodes. An act that cannot be played leaves its player. -/
theorem Reachable.refuses (reachable : session.Reachable) :
    (∀ id fault later, session.start id = some (.error fault, later) → OnlyReports session later ∧
      (session.player? id = none ∧ fault = .unknownPlayer id ∨
        ∃ player, session.player? id = some player ∧ player.act.nodes = [] ∧
          fault = .act .emptyGraph)) ∧
    (∀ id fault later, session.stop id = (.error fault, later) →
      session.player? id = none ∧ fault = .unknownPlayer id ∧ later = session) ∧
    (∀ id fault later, session.unload id = (.error fault, later) →
      session.player? id = none ∧ fault = .unknownPlayer id ∧ later = session) ∧
    ∀ act fault later, session.play act = some (.error fault, later) →
      act.nodes = [] ∧ fault = .act .emptyGraph ∧ ∃ player, Leaves session later act player := by
  obtain ⟨log, run⟩ := reachable
  have lives := Lives.kept.run run
  refine ⟨fun id fault later answer => ?_, fun _ _ _ => stop_refused, fun _ _ _ => unload_refused,
    fun _ _ _ => lives.play_refused⟩
  rcases lives.start_refused answer with
    ⟨absent, unknown, rfl⟩ | ⟨player, found, empty, refused, rfl⟩
  · exact ⟨.refl _, .inl ⟨absent, unknown⟩⟩
  · exact ⟨.emit _ _, .inr ⟨player, found, empty, refused⟩⟩

/-! ### An act without nodes -/

def blank : Act := .empty ⟨"blank"⟩ "blank" .epoch

theorem play_blank : ∃ later,
    (bare 3).play blank = some (.error (.act .emptyGraph), later) ∧
      later.players.map Player.id = [⟨1⟩] :=
  ⟨_, rfl, rfl⟩

theorem refuses_blank : ∃ session later : Session Universe, ∃ player, session.Reachable ∧
    session.play blank = some (.error (.act .emptyGraph), later) ∧
    Leaves session later blank player := by
  obtain ⟨later, played, -⟩ := play_blank
  have reachable : (bare 3).Reachable := ⟨[], .bare 3⟩
  obtain ⟨-, -, player, leaves⟩ := reachable.refuses.2.2.2 blank _ later played
  exact ⟨_, later, player, reachable, played, leaves⟩

/-- A play that is refused need not leave the players as they were. -/
theorem left_behind_blank : ∃ session later : Session Universe, session.Reachable ∧
    session.play blank = some (.error (.act .emptyGraph), later) ∧
    session.players = [] ∧ later.players.map Player.id = [⟨1⟩] := by
  obtain ⟨later, played, added⟩ := play_blank
  exact ⟨_, later, ⟨[], .bare 3⟩, played, rfl, added⟩

end Session

end LightingDesk
