import LightingDesk.Proofs.Playback.Cast
import LightingDesk.Proofs.Playback.Restart
import LightingDesk.Proofs.Runner.Run
import Mathlib.Data.List.Perm.Subperm

/-!
Who plays in a session that a runner drives: players of the runner's own acts, at most one for an act,
and the same ones for as long as the runner goes on (`Runner.Run.roster`).
-/

namespace LightingDesk

/-- The request adds no player and takes none out. -/
def Request.KeepsCast {ω : Type} : Request ω → Prop
  | .load _ | .play _ | .unload _ => False
  | _ => True

namespace Session

variable {ω : Type} [Output ω] {session later : Session ω} {log : List (Moment TimerQueue ω)}
  {id other : PlayerId}

theorem Lives.cast_of_keeps (lives : Lives session log) (request : Request ω)
    (keeps : request.KeepsCast) (answer : session.perform request = some later) :
    later.cast = session.cast := by
  have same : session.cast ++ session.loads request = session.cast := by
    cases request with
    | load | play | unload => exact keeps.elim
    | _ => exact List.append_nil _
  rw [← same]
  refine lives.cast_perform request ?_ answer
  cases request with
  | unload => exact keeps.elim
  | _ => exact id

theorem Lives.playerFor?_cue {act : Act} (lives : Lives session log)
    (answer : session.perform (session.cue act) = some later) :
    later.playerFor? act.id = some (session.cued act) := by
  unfold Session.cue at answer
  unfold Session.cued
  split at answer
  next player plays =>
    have same : later.cast = session.cast := lives.cast_of_keeps (.start player) trivial answer
    rw [plays]
    exact playerFor?_of_prefix (same ▸ List.prefix_rfl) plays
  next absent =>
    have grown := lives.cast_perform (.play act) not_false answer
    rw [absent, Option.getD_none]
    rw [playerFor?_eq, Option.map_eq_none_iff] at absent
    rw [playerFor?_eq, grown, List.find?_append, absent, Option.none_or]
    change (List.find? _ [((session.load act).1, act)]).map Prod.fst = _
    simp only [List.find?_cons_of_pos, beq_self_eq_true, Option.map_some]

omit [Output ω] in
theorem mem_stop {player : Player} (different : player.id ≠ id) :
    player ∈ (session.stop id).2.players ↔ player ∈ session.players := by
  unfold Session.stop
  split
  next => rfl
  next own found =>
    have named : (own.stop session.stage).1.id = id := (own.stop_id _).trans (id_of_player? found)
    constructor
    · intro member
      rcases mem_replace member with rfl | ⟨listed, -⟩
      · exact absurd named different
      · exact listed
    · intro member
      have other : ¬(player.id == (own.stop session.stage).1.id) = true := by
        rw [named, beq_iff_eq]
        exact different
      exact List.mem_map.2 ⟨player, member, if_neg other⟩

theorem Lives.player?_of_mem {player : Player} (lives : Lives session log)
    (member : player ∈ session.players) : session.player? player.id = some player := by
  cases found : session.player? player.id with
  | none => exact absurd rfl (player?_eq_none.1 found player member)
  | some other =>
    have same := id_of_player? found
    rw [List.inj_on_of_nodup_map lives.distinct (mem_of_player? found) member same]

theorem Tied.timersOf_stop (tied : Tied session log) (different : other ≠ id) :
    ((session.stop id).2.stage.clock.timersOf other).Perm (session.stage.clock.timersOf other) := by
  unfold Session.stop
  split
  next => exact .refl _
  next player found => exact (tied.stop_serves found).1.others other different

end Session

namespace Runner

open Relation

variable {κ : Type} [ArtNet.Link κ] {acts : List Act} {runner later : Runner κ} {clock : Clock}

/-- The players of the session play acts of the runner, each of them another one. -/
structure Staffed (acts : List Act) (runner : Runner κ) : Prop where
  reachable : runner.session.Reachable
  same : runner.acts = acts
  distinct : (runner.session.cast.map fun entry => entry.2.id).Nodup
  known : ∀ entry ∈ runner.session.cast, entry.2 ∈ acts

/-- A runner that has gone on with the players that it had, and maybe with more of them. -/
def Keeps (acts : List Act) (runner later : Runner κ) : Prop :=
  Staffed acts later ∧ runner.session.cast <+: later.session.cast

omit [ArtNet.Link κ] in
theorem Asks.loads {request : Request Universe} (asks : runner.Asks request) :
    ¬request.Unloads ∧ (runner.session.loads request = [] ∨
      ∃ act ∈ runner.acts, runner.session.playerFor? act.id = none ∧
        runner.session.loads request = [((runner.session.load act).1, act)]) := by
  cases asks with
  | catchUp | stop | stopAll | changeSignals => exact ⟨not_false, .inl rfl⟩
  | @cue act known =>
    unfold Session.cue
    cases plays : runner.session.playerFor? act.id with
    | some player => exact ⟨not_false, .inl rfl⟩
    | none => exact ⟨not_false, .inr ⟨act, known, plays, rfl⟩⟩

theorem cast_flush (runner : Runner κ) (now : Nat) :
    (runner.flush now).session.cast = runner.session.cast := by
  obtain ⟨sender, unsent, same⟩ := runner.exists_flush_eq now
  rw [same]
  rfl

namespace Staffed

omit [ArtNet.Link κ] in
theorem lives (staffed : Staffed acts runner) : ∃ log, Session.Lives runner.session log := by
  obtain ⟨log, run⟩ := staffed.reachable
  exact ⟨log, Session.Lives.kept.run run⟩

omit [ArtNet.Link κ] in
theorem perform {request : Request Universe} {session : Session Universe}
    (staffed : Staffed acts runner) (answer : runner.session.perform request = some session)
    (stays : ¬request.Unloads)
    (loads : runner.session.loads request = [] ∨
      ∃ act ∈ acts, runner.session.playerFor? act.id = none ∧
        runner.session.loads request = [((runner.session.load act).1, act)]) :
    Keeps acts runner { runner with session } := by
  obtain ⟨log, run⟩ := staffed.reachable
  have grown := (Session.Lives.kept.run run).cast_perform request stays answer
  have reachable : session.Reachable := ⟨_, run.perform request answer⟩
  rcases loads with none | ⟨act, member, absent, loads⟩
  · rw [none, List.append_nil] at grown
    exact ⟨⟨reachable, staffed.same, grown ▸ staffed.distinct, grown ▸ staffed.known⟩,
      grown ▸ List.prefix_rfl⟩
  · rw [loads] at grown
    refine ⟨⟨reachable, staffed.same, ?_, ?_⟩, grown ▸ List.prefix_append _ _⟩
    · rw [grown, List.map_append, List.nodup_append]
      refine ⟨staffed.distinct, List.nodup_singleton _, ?_⟩
      intro known listed new added
      obtain ⟨⟨id, other⟩, entry, rfl⟩ := List.mem_map.1 listed
      obtain ⟨player, loaded, -, rfl⟩ := Session.mem_cast.1 entry
      rw [List.map_singleton, List.mem_singleton] at added
      exact added ▸ Session.playerFor?_eq_none absent loaded
    · intro entry listed
      rcases List.mem_append.1 (grown ▸ listed) with old | new
      · exact staffed.known entry old
      · exact List.mem_singleton.1 new ▸ member

omit [ArtNet.Link κ] in
theorem collect (staffed : Staffed acts runner) : Staffed acts runner.collect := by
  obtain ⟨log, run⟩ := staffed.reachable
  have collected := run.perform (.changeOutput fun _ => runner.session.stage.output.takeDirty.2) rfl
  exact ⟨⟨_, collected⟩, staffed.same, staffed.distinct, staffed.known⟩

theorem flush (staffed : Staffed acts runner) (now : Nat) : Staffed acts (runner.flush now) := by
  obtain ⟨sender, unsent, same⟩ := runner.exists_flush_eq now
  have collected := staffed.collect
  rw [same]
  exact ⟨collected.reachable, collected.same, collected.distinct, collected.known⟩

theorem moves (staffed : Staffed acts runner) (moves : runner.Moves later) :
    Keeps acts runner later := by
  cases moves with
  | ask asks answer =>
    obtain ⟨stays, loads⟩ := asks.loads
    exact staffed.perform answer stays (staffed.same ▸ loads)
  | flush now => exact ⟨staffed.flush now, cast_flush runner now ▸ List.prefix_rfl⟩

theorem movesTo (staffed : Staffed acts runner) (moves : ReflTransGen Moves runner later) :
    Keeps acts runner later := by
  induction moves with
  | refl => exact ⟨staffed, List.prefix_rfl⟩
  | tail _ next ih =>
    obtain ⟨reached, grown⟩ := ih.1.moves next
    exact ⟨reached, ih.2.trans grown⟩

theorem run (staffed : Staffed acts runner) (run : Run Request.KeepsCast runner later) :
    Keeps acts runner later := by
  refine run.rule (P := Keeps acts runner) ?_ ?_ ⟨staffed, List.prefix_rfl⟩
  · rintro middle last ⟨reached, grown⟩ moved
    exact ⟨(reached.moves moved).1, grown.trans (reached.moves moved).2⟩
  · rintro middle request session ⟨reached, grown⟩ keeps answer
    have stays : ¬request.Unloads := by
      cases request with
      | unload => exact keeps.elim
      | _ => exact id
    have none : middle.session.loads request = [] := by
      cases request with
      | load | play => exact keeps.elim
      | _ => rfl
    obtain ⟨staffed, more⟩ := reached.perform answer stays (.inl none)
    exact ⟨staffed, grown.trans more⟩

/-- An act that is started has a player from then on, also if it cannot be started. -/
theorem startAct {key : String} {act : Act} {result : Except RunnerError PlayerId}
    (staffed : Staffed acts runner) (found : runner.find? key = some act)
    (answer : runner.startAct clock key = some (result, later)) :
    ∃ player, later.session.playerFor? act.id = some player ∧
      ∀ reply, result = .ok reply → reply = player := by
  obtain ⟨synced, advanced, rest⟩ := startAct_cases answer
  obtain ⟨caught, -⟩ := staffed.moves (.ask (.catchUp _) advanced)
  obtain ⟨log, lives⟩ := caught.lives
  rcases rest with ⟨absent, -⟩ | ⟨other, begun, known, cued, rest⟩
  · simp [found] at absent
  · obtain rfl : act = other := Option.some.inj (found.symm.trans known)
    have plays := lives.playerFor?_cue cued
    refine ⟨synced.cued act, ?_⟩
    rcases rest with ⟨error, rfl, rfl⟩ | ⟨rfl, rfl⟩
    · exact ⟨plays, by simp⟩
    · have same : (Runner.flush { runner with session := begun } (clock.after 1).now).session.cast =
          begun.cast :=
        cast_flush _ _
      exact ⟨Session.playerFor?_of_prefix (same ▸ List.prefix_rfl) plays,
        fun reply same => (Except.ok.inj same).symm⟩

theorem startAll {ids started : List ActId} (staffed : Staffed acts runner)
    (distinct : (acts.map Act.id).Nodup) (known : ∀ id ∈ ids, id ∈ acts.map Act.id)
    (answer : runner.startAll clock ids = some (started, later)) :
    ∀ id ∈ ids, ∃ player, later.session.playerFor? id = some player := by
  induction ids generalizing runner clock started with
  | nil => simp
  | cons id rest ih =>
    simp only [Runner.startAll, Option.bind_eq_bind, Option.bind_eq_some_iff] at answer
    obtain ⟨⟨result, reached⟩, first, ⟨others, last⟩, later', ended⟩ := answer
    obtain rfl : last = later := by
      cases result with
      | error => exact (Prod.mk.inj (Option.some.inj ended)).2
      | ok => exact (Prod.mk.inj (Option.some.inj ended)).2
    have begun := staffed.movesTo (moves_startAct first)
    have kept := begun.1.movesTo (moves_startAll later')
    obtain ⟨act, member, rfl⟩ := List.mem_map.1 (known id List.mem_cons_self)
    have found := find?_id (staffed.same ▸ distinct) (staffed.same ▸ member)
    obtain ⟨player, plays, -⟩ := staffed.startAct found first
    intro other listed
    rcases List.mem_cons.1 listed with rfl | listed
    · exact ⟨player, Session.playerFor?_of_prefix kept.2 plays⟩
    · exact ih begun.1 (fun id member => known id (List.mem_cons_of_mem _ member)) later' other listed

end Staffed

/-- What stopping an act does to the players of a session. -/
structure Stops (act : ActId) (session later : Session Universe) : Prop where
  cast : later.cast = session.cast
  stopped : ∀ player ∈ later.players, player.act.id = act →
    player.playing = false ∧ later.stage.clock.timersOf player.id = []
  spared : ∀ player ∈ session.players, player.act.id ≠ act → player ∈ later.players ∧
    (later.stage.clock.timersOf player.id).Perm (session.stage.clock.timersOf player.id)

namespace Staffed

omit [ArtNet.Link κ] in
theorem stops {act : ActId} {id : PlayerId} (staffed : Staffed acts runner)
    (plays : runner.session.playerFor? act = some id) :
    Stops act runner.session (runner.session.stop id).2 := by
  obtain ⟨log, run⟩ := staffed.reachable
  have tied := Session.Tied.kept.run run
  have lives := tied.toLives
  have cast := lives.cast_stop id
  have later : (runner.session.stop id).2.Reachable := ⟨_, run.perform (.stop id) rfl⟩
  have alone : ∀ entry ∈ runner.session.cast, entry.2.id = act → entry.1 = id := by
    intro entry listed same
    obtain ⟨player, member, rfl, rfl⟩ := Session.exists_player_of_playerFor? plays
    have listed' := Session.mem_cast.2 ⟨player, member, rfl, rfl⟩
    rw [List.inj_on_of_nodup_map staffed.distinct listed listed' same]
  refine ⟨cast, ?_, ?_⟩
  · intro player member same
    have own : player.id = id := by
      refine alone (player.id, player.act) ?_ same
      rw [← cast]
      exact Session.mem_cast.2 ⟨player, member, rfl, rfl⟩
    have found := (lives.stopped id).player?_of_mem member
    have idle := runner.session.stop_idle id player (own ▸ found)
    exact ⟨idle, (later.timers_match.2.1 _ _ found idle).1⟩
  · intro player member different
    have other : player.id ≠ id := by
      intro same
      obtain ⟨own, listed, named, plays⟩ := Session.exists_player_of_playerFor? plays
      rw [List.inj_on_of_nodup_map lives.distinct member listed (same.trans named.symm)] at different
      exact different plays
    exact ⟨(Session.mem_stop other).2 member, tied.timersOf_stop other⟩

omit [ArtNet.Link κ] in
theorem stopAct {key : String} {act : Act} (staffed : Staffed acts runner)
    (found : runner.find? key = some act) : (runner.stopAct key).1 = .ok () ∧
      Stops act.id runner.session (runner.stopAct key).2.session := by
  rcases runner.stopAct_cases key with ⟨absent, -⟩ | ⟨other, known, rest⟩
  · simp [found] at absent
  · obtain rfl : act = other := Option.some.inj (found.symm.trans known)
    rcases rest with ⟨absent, same⟩ | ⟨id, plays, same⟩
    · rw [same]
      refine ⟨rfl, rfl, ?_, fun player member _ => ⟨member, .refl _⟩⟩
      exact fun player member own => absurd own (Session.playerFor?_eq_none absent member)
    · rw [same]
      refine ⟨?_, staffed.stops plays⟩
      obtain ⟨log, lives⟩ := staffed.lives
      obtain ⟨player, member, rfl, -⟩ := Session.exists_player_of_playerFor? plays
      rw [Session.stop, lives.player?_of_mem member]
      rfl

end Staffed

/-- The acts that a message triggers. -/
def triggered (runner : Runner κ) : RunnerCommand → List ActId
  | .midi message => runner.matching fun triggers => triggers.midiFires message
  | .osc message => runner.matching fun triggers => triggers.oscFires message
  | .start _ | .stop _ | .stopAll | .shutdown => []

omit [ArtNet.Link κ] in
theorem mem_triggered {command : RunnerCommand} {id : ActId} (listed : id ∈ runner.triggered command) :
    id ∈ runner.acts.map Act.id := by
  have matched (fires : Triggers → Bool) (listed : id ∈ runner.matching fires) :
      id ∈ runner.acts.map Act.id := by
    obtain ⟨act, member, rfl⟩ := List.mem_map.1 listed
    exact List.mem_map_of_mem (List.mem_of_mem_filter member)
  cases command with
  | midi message => exact matched (fun triggers => triggers.midiFires message) listed
  | osc message => exact matched (fun triggers => triggers.oscFires message) listed
  | start | stop | stopAll | shutdown => cases listed

theorem Staffed.triggered {command : RunnerCommand} (staffed : Staffed acts runner)
    (distinct : (acts.map Act.id).Nodup) (answer : runner.apply clock command = some later) :
    ∀ id ∈ runner.triggered command, ∃ player, later.session.playerFor? id = some player := by
  have known : ∀ id ∈ runner.triggered command, id ∈ acts.map Act.id := fun id listed =>
    staffed.same ▸ mem_triggered listed
  have heard (change : SignalBoard → SignalBoard) :
      Staffed acts { runner with session := runner.session.mapSignals change } :=
    (staffed.moves (.ask (.changeSignals change) rfl)).1
  cases command with
  | start | stop | stopAll | shutdown => simp [Runner.triggered]
  | midi message =>
    obtain ⟨⟨started, reached⟩, handled, rfl⟩ := Option.map_eq_some_iff.1 answer
    unfold handleMidi at handled
    cases message with
    | controlChange channel controller value =>
      exact (heard _).startAll distinct known handled
    | noteOn | noteOff => exact staffed.startAll distinct known handled
  | osc message =>
    obtain ⟨⟨started, reached⟩, handled, rfl⟩ := Option.map_eq_some_iff.1 answer
    unfold handleOsc at handled
    split at handled
    next value => exact (heard _).startAll distinct known handled
    next => exact staffed.startAll distinct known handled

/-- Who plays the acts of a runner, now and later. -/
structure Roster (acts : List Act) (runner : Runner κ) : Prop where
  same : runner.acts = acts
  single : (runner.session.players.map fun player => player.act.id).Nodup
  own : ∀ player ∈ runner.session.players, player.act ∈ acts
  few : runner.session.players.length ≤ acts.length
  lasting : ∀ later, Run Request.KeepsCast runner later →
    runner.session.cast <+: later.session.cast ∧
    ∀ act id, runner.session.playerFor? act = some id → later.session.playerFor? act = some id
  /-- Whether or not the start succeeds, the act has a player then: the one that it had before, if it
  had one. -/
  started : ∀ clock key act result later, runner.find? key = some act →
    runner.startAct clock key = some (result, later) → ∃ id,
      later.session.playerFor? act.id = some id ∧ (∀ reply, result = .ok reply → reply = id) ∧
      ∀ earlier, runner.session.playerFor? act.id = some earlier → id = earlier
  triggered : ∀ clock command later, runner.apply clock command = some later →
    ∀ act ∈ runner.triggered command, ∃ id, later.session.playerFor? act = some id ∧
      ∀ earlier, runner.session.playerFor? act = some earlier → id = earlier
  stopped : ∀ key, (runner.stopAct key).1 = .ok () ↔ (runner.find? key).isSome
  stops : ∀ key act, runner.find? key = some act →
    Stops act.id runner.session (runner.stopAct key).2.session

theorem Run.roster {start : Runner κ} (reachable : start.session.Reachable)
    (empty : start.session.players = []) (distinct : (start.acts.map Act.id).Nodup)
    (run : Run Request.KeepsCast start runner) : runner.Roster start.acts := by
  have staffed : Staffed start.acts runner := by
    have bare : start.session.cast = [] := by rw [Session.cast, empty, List.map_nil]
    refine (Staffed.run ⟨reachable, rfl, ?_, ?_⟩ run).1
    · rw [bare]
      exact List.nodup_nil
    · simp [bare]
  have single : (runner.session.players.map fun player => player.act.id).Nodup := by
    have distinct := staffed.distinct
    rwa [Session.cast, List.map_map] at distinct
  have own : ∀ player ∈ runner.session.players, player.act ∈ start.acts := fun player member =>
    staffed.known (player.id, player.act) (Session.mem_cast.2 ⟨player, member, rfl, rfl⟩)
  refine ⟨staffed.same, single, own, ?_, ?_, ?_, ?_, ?_, ?_⟩
  · have named : (runner.session.players.map fun player => player.act.id) ⊆ start.acts.map Act.id := by
      intro id listed
      obtain ⟨player, member, rfl⟩ := List.mem_map.1 listed
      exact List.mem_map_of_mem (own player member)
    simpa using (List.subperm_of_subset single named).length_le
  · intro later rest
    have grown := (staffed.run rest).2
    exact ⟨grown, fun act id plays => Session.playerFor?_of_prefix grown plays⟩
  · intro clock key act result later found answer
    obtain ⟨id, plays, replies⟩ := staffed.startAct found answer
    refine ⟨id, plays, replies, fun earlier before => ?_⟩
    have kept := Session.playerFor?_of_prefix (staffed.movesTo (moves_startAct answer)).2 before
    exact Option.some.inj (plays.symm.trans kept)
  · intro clock command later answer act listed
    obtain ⟨id, plays⟩ := staffed.triggered distinct answer act listed
    refine ⟨id, plays, fun earlier before => ?_⟩
    have kept := Session.playerFor?_of_prefix (staffed.movesTo (moves_apply answer)).2 before
    exact Option.some.inj (plays.symm.trans kept)
  · intro key
    cases found : runner.find? key with
    | some act => simpa using (staffed.stopAct found).1
    | none =>
      rcases runner.stopAct_cases key with ⟨-, refused⟩ | ⟨act, known, -⟩
      · simp [refused]
      · simp [found] at known
  · exact fun key act found => (staffed.stopAct found).2

/-- A runner with an act that can be played and a blank one, which cannot. -/
def rehearsal : Runner ArtNet.Wire :=
  create (.bare 3) [.relay, .empty ⟨"blank"⟩ "blank" .epoch] none

theorem roster_rehearsal : ∃ runner, Run Request.KeepsCast rehearsal runner ∧
    runner.session.players.map Player.playing = [false, true] ∧ runner.Roster rehearsal.acts := by
  have answered : ((rehearsal.apply (.still 0) (.start "blank")).bind fun runner =>
      (runner.apply (.still 0) (.start "relay")).bind fun runner =>
        runner.apply (.still 0) (.start "blank")).map
        (fun runner => runner.session.players.map Player.playing) = some [false, true] := by
    decide
  obtain ⟨runner, answer, playing⟩ := Option.map_eq_some_iff.1 answered
  obtain ⟨first, failed, rest⟩ := Option.bind_eq_some_iff.1 answer
  obtain ⟨second, started, again⟩ := Option.bind_eq_some_iff.1 rest
  have run : Run Request.KeepsCast rehearsal runner :=
    ((Run.here.apply _ (.start "blank") failed).apply _ (.start "relay") started).apply _
      (.start "blank") again
  have reachable : rehearsal.session.Reachable := ⟨[], .bare 3⟩
  exact ⟨runner, run, playing, run.roster reachable rfl (by decide)⟩

end Runner

end LightingDesk
