import LightingDesk.Proofs.Playback.Life
import LightingDesk.Proofs.Playback.Request

/-!
The players of a session live apart: whatever a host asks for, the moments that belong to one player
are those of a life of its own. `Session.Run.playback` says that the moments of a run under one token
are a playback.
-/

namespace LightingDesk

/-- The moments of one player. -/
def Moment.ofPlayer {σ ω : Type} (id : PlayerId) (log : List (Moment σ ω)) : List (Moment σ ω) :=
  log.filter fun moment => moment.player.id == id

theorem Moment.playback_ofPlayer {σ ω : Type} (token : Token) (log : List (Moment σ ω)) :
    Moment.playback token (Moment.ofPlayer token.player log) = Moment.playback token log := by
  rw [Moment.playback, Moment.ofPlayer, List.filter_filter, Moment.playback]
  apply List.filter_congr
  intro moment _
  by_cases same : moment.player.token = token
  · rw [← same]
    simp [Player.token]
  · simp [same]

namespace Session

variable {ω : Type} [Output ω]

/-- Whom the moments of a session belong to. -/
structure Lives (session : Session ω) (log : List (Moment TimerQueue ω)) : Prop where
  distinct : (session.players.map Player.id).Nodup
  numbered : ∀ player ∈ session.players, player.id.number < session.nextPlayer
  recorded : ∀ moment ∈ log, moment.player.id.number < session.nextPlayer
  living : ∀ player ∈ session.players, ∃ act, Life player.id act player (Moment.ofPlayer player.id log)
  lived : ∀ id, ∃ act player, Life id act player (Moment.ofPlayer id log)

omit [Output ω] in
theorem mem_of_player? {session : Session ω} {id : PlayerId} {player : Player}
    (found : session.player? id = some player) : player ∈ session.players :=
  List.mem_of_find?_eq_some found

omit [Output ω] in
theorem player?_eq_none {session : Session ω} {id : PlayerId} :
    session.player? id = none ↔ ∀ player ∈ session.players, player.id ≠ id := by
  simp [player?, List.find?_eq_none]

omit [Output ω] in
theorem mem_replace {session : Session ω} {player later : Player} {stage : Stage TimerQueue ω}
    (member : player ∈ (session.replace later stage).players) :
    player = later ∨ player ∈ session.players ∧ player.id ≠ later.id := by
  simp only [replace, List.mem_map] at member
  obtain ⟨other, listed, same⟩ := member
  split at same
  next => exact .inl same.symm
  next different =>
    subst same
    exact .inr ⟨listed, by simpa using different⟩

omit [Output ω] in
theorem ids_replace (session : Session ω) (later : Player) (stage : Stage TimerQueue ω) :
    (session.replace later stage).players.map Player.id = session.players.map Player.id := by
  rw [replace, List.map_map]
  apply List.map_congr_left
  intro other _
  rw [Function.comp_apply]
  split
  next same => exact (by simpa using same : other.id = later.id).symm
  next => rfl

namespace Lives

variable {session : Session ω} {log new : List (Moment TimerQueue ω)} {id : PlayerId}
  {player later : Player}

theorem create (output : ω) (scenes : SceneLibrary) (settings : EngineSettings) (seeding : Seeding) :
    Lives (.create output scenes settings seeding) [] where
  distinct := List.nodup_nil
  numbered := by simp [Session.create]
  recorded := by simp
  living := by simp [Session.create]
  lived := fun id => ⟨.empty ⟨""⟩ "" .epoch, _, .load settings seeding⟩

theorem restage (lives : Lives session log) (stage : Stage TimerQueue ω) :
    Lives { session with stage } log :=
  ⟨lives.distinct, lives.numbered, lives.recorded, lives.living, lives.lived⟩

theorem load (lives : Lives session log) (act : Act) : Lives (session.load act).2 log := by
  have fresh : ∀ moment ∈ log, moment.player.id ≠ ⟨session.nextPlayer⟩ := by
    intro moment member same
    have earlier := lives.recorded moment member
    rw [same] at earlier
    exact Nat.lt_irrefl _ earlier
  refine ⟨?_, ?_, ?_, ?_, lives.lived⟩
  · rw [Session.load, List.map_append, List.nodup_append]
    refine ⟨lives.distinct, List.nodup_singleton _, ?_⟩
    intro other listed new added
    obtain ⟨player, member, rfl⟩ := List.mem_map.1 listed
    rw [List.map_singleton, List.mem_singleton] at added
    intro same
    have earlier := lives.numbered player member
    rw [same, added] at earlier
    exact Nat.lt_irrefl _ earlier
  · intro player member
    rcases List.mem_append.1 member with member | member
    · exact Nat.lt_succ_of_lt (lives.numbered player member)
    · rw [List.mem_singleton.1 member]
      exact Nat.lt_succ_self _
  · intro moment member
    exact Nat.lt_succ_of_lt (lives.recorded moment member)
  · intro player member
    rcases List.mem_append.1 member with member | member
    · exact lives.living player member
    · rw [List.mem_singleton.1 member]
      have none : Moment.ofPlayer ⟨session.nextPlayer⟩ log = [] :=
        List.filter_eq_nil_iff.2 fun moment listed => by simpa using fresh moment listed
      refine ⟨act, ?_⟩
      change Life ⟨session.nextPlayer⟩ act _ (Moment.ofPlayer ⟨session.nextPlayer⟩ log)
      rw [none]
      exact .load ..

theorem remove (lives : Lives session log) (id : PlayerId) :
    Lives { session with players := session.players.filter fun other => other.id != id } log where
  distinct := lives.distinct.sublist (List.filter_sublist.map _)
  numbered := fun player member => lives.numbered player (List.mem_of_mem_filter member)
  recorded := lives.recorded
  living := fun player member => lives.living player (List.mem_of_mem_filter member)
  lived := lives.lived

theorem life (lives : Lives session log) (found : session.player? id = some player) :
    ∃ act, Life id act player (Moment.ofPlayer id log) := by
  have life := lives.living player (mem_of_player? found)
  rwa [id_of_player? found] at life

/-- A loaded player goes on living; all others are left as they are. -/
theorem replace {act : Act} (lives : Lives session log) (found : session.player? id = some player)
    (life : Life id act later (Moment.ofPlayer id log ++ new)) (stage : Stage TimerQueue ω) :
    Lives (session.replace later stage) (log ++ new) := by
  have chronicle := life.chronicle
  have owned : ∀ moment ∈ new, moment.player.id = id := fun moment member =>
    (chronicle.owned moment (List.mem_append_right _ member)).1
  have own : Moment.ofPlayer id (log ++ new) = Moment.ofPlayer id log ++ new :=
    filter_append_of_kept fun moment member => by simpa using owned moment member
  have others : ∀ other ≠ id, Moment.ofPlayer other (log ++ new) = Moment.ofPlayer other log :=
    fun other different => filter_append_of_dropped fun moment member => by
      simpa using owned moment member ▸ Ne.symm different
  have numbered : id.number < session.nextPlayer :=
    id_of_player? found ▸ lives.numbered player (mem_of_player? found)
  refine ⟨?_, ?_, ?_, ?_, ?_⟩
  · rw [ids_replace]
    exact lives.distinct
  · intro other member
    rcases mem_replace member with rfl | ⟨listed, -⟩
    · exact chronicle.named ▸ numbered
    · exact lives.numbered other listed
  · intro moment member
    rcases List.mem_append.1 member with member | member
    · exact lives.recorded moment member
    · exact owned moment member ▸ numbered
  · intro other member
    rcases mem_replace member with rfl | ⟨listed, different⟩
    · rw [chronicle.named, own]
      exact ⟨act, life⟩
    · rw [others other.id (chronicle.named ▸ different)]
      exact lives.living other listed
  · intro other
    by_cases same : other = id
    · rw [same, own]
      exact ⟨act, later, life⟩
    · rw [others other same]
      exact lives.lived other

theorem start {result : Except Fault Unit} {stage : Stage TimerQueue ω} (lives : Lives session log)
    (found : session.player? id = some player)
    (answer : player.start session.stage = some (result, later, stage)) :
    Lives (session.replace later stage) (log ++ player.startMoments session.stage) := by
  obtain ⟨act, life⟩ := lives.life found
  exact lives.replace found (life.start _ answer) stage

theorem stop (lives : Lives session log) (found : session.player? id = some player) :
    Lives (session.replace (player.stop session.stage).1 (player.stop session.stage).2) log := by
  obtain ⟨act, life⟩ := lives.life found
  have stopped := life.stop session.stage
  rw [← List.append_nil (Moment.ofPlayer id log)] at stopped
  have replaced := lives.replace found stopped (player.stop session.stage).2
  rwa [List.append_nil] at replaced

theorem timer {token : Token} {clock : TimerQueue} {stage : Stage TimerQueue ω}
    (lives : Lives session log) (found : session.player? token.player = some player)
    (answer : player.onTimer (session.popped clock).stage token = some (later, stage)) :
    Lives ((session.popped clock).replace later stage)
      (log ++ player.timerMoments (session.popped clock).stage token) := by
  obtain ⟨act, life⟩ := lives.life found
  exact (lives.restage _).replace found (life.timer _ token answer) stage

theorem kept : Kept (Lives (ω := ω)) where
  create := create
  restage := fun stage lives _ _ => lives.restage stage
  load := fun act lives => lives.load act
  remove := fun id lives _ => lives.remove id
  start := fun lives found answer => lives.start found answer
  stop := fun lives found => lives.stop found
  drop := fun lives _ _ => lives.restage _
  timer := fun lives _ found answer => lives.timer found answer
  close := fun _ lives => lives.restage _

end Lives

theorem Run.playback {session : Session ω} {log : List (Moment TimerQueue ω)}
    (run : session.Run log) (token : Token) : Moment.playback token log = [] ∨
      ∃ act due, Playback act token (Moment.playback token log) due := by
  obtain ⟨act, player, life⟩ := (Lives.kept.run run).lived token.player
  rw [← Moment.playback_ofPlayer]
  rcases life.chronicle.playbacks token with none | ⟨due, playback⟩
  · exact .inl none
  · exact .inr ⟨act, due, playback⟩

end Session

end LightingDesk
