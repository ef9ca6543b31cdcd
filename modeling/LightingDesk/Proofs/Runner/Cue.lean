import LightingDesk.Proofs.Playback.Generation
import LightingDesk.Proofs.Playback.Moves
import LightingDesk.Proofs.Playback.Pace
import LightingDesk.Proofs.Runner.Roster
import LightingDesk.Proofs.Runner.Surroundings

/-!
An act on its cue. It is started by the player that it had before, or by one that is loaded for it, and
only that player is concerned (`Session.Lives.cue_cases`). A playback begins on a cue and at no other time:
the playbacks that players have begun are counted by their generations.
-/

namespace LightingDesk

namespace Player

/-- How many playbacks have begun. The generation grows by one with each that begins and with each that
ends. -/
def playbacks (player : Player) : Nat := (player.generation + player.playing.toNat) / 2

variable {σ ω : Type} [Scheduler σ] [Output ω] {act : Act} {player later : Player}
  {stage shown : Stage σ ω} {call : Call}

theorem Responds.playbacks (responds : player.Responds act stage call later shown) :
    later.playbacks =
      player.playbacks + (Episode.mk call player stage later shown).begins.toNat := by
  obtain ⟨generation, balance⟩ := responds.counts
  unfold Player.playbacks
  omega

omit [Scheduler σ] in
theorem Responds.now {player later : Player} {stage shown : Stage TimerQueue ω}
    (responds : player.Responds act stage call later shown) : shown.clock.now = stage.clock.now := by
  cases responds with
  | ignored => rfl
  | stopped => exact player.stop_now stage
  | refused => exact player.stop_now stage
  | begun found succeeds drove => exact drove.now.trans (player.stop_now stage)
  | resumed playing drove => exact drove.now

end Player

/-- The block of a playback begins with its start node. -/
theorem Act.Block.entered {act : Act} {id : PlayerId} {playing : Bool} {block : List Event}
    {start : NodeId} (told : act.Block id playing block) (found : act.startId? = some start) :
    ∃ rest, block = .nodeEntered id act.id start :: rest := by
  cases told with
  | refused empty => simp [Act.startId?_eq_none.2 empty] at found
  | opened known =>
    obtain rfl := Option.some.inj (found.symm.trans known)
    exact ⟨_, rfl⟩
  | closed known =>
    obtain rfl := Option.some.inj (found.symm.trans known)
    exact ⟨_, rfl⟩

/-- What comes of a start: a refusal, or a playback that begins at the start node when the one before has
been cut off. -/
theorem Player.Responds.start_cases {σ ω : Type} [Scheduler σ] [Output ω] {player later : Player}
    {stage shown : Stage σ ω} (responds : player.Responds player.act stage .start later shown) :
    (player.act.startId? = none ∧ (player.start stage).map Prod.fst = some (.error .emptyGraph) ∧
      later.playing = false) ∨
    ∃ start rest, player.act.startId? = some start ∧
      (player.start stage).map Prod.fst = some (.ok ()) ∧
      stage.Tells shown (player.farewell ++ .nodeEntered player.id player.act.id start :: rest) ∧
      ∀ event ∈ player.farewell ++ .nodeEntered player.id player.act.id start :: rest,
        event.player = player.id := by
  cases responds with
  | ignored quiet => exact absurd rfl quiet
  | refused absent fails => exact .inl ⟨absent, fails, player.stop_playing stage⟩
  | begun found succeeds drove =>
    obtain ⟨block, tells, opens⟩ := drove.opens (drove.stepped (player.restarted_fresh stage))
      ((player.restarted_act stage).symm ▸ found)
    rw [player.restarted_id, player.restarted_act] at opens
    obtain ⟨rest, rfl⟩ := opens.entered found
    refine .inr ⟨_, rest, found, succeeds, (player.stop_tells stage).trans tells, ?_⟩
    intro event member
    rcases List.mem_append.1 member with farewell | driven
    · exact (player.mem_farewell farewell).1
    · exact (opens.proper event driven).1

namespace Session

variable {ω : Type}

/-- An act that is asked for, and the session before and after that. -/
structure Cue (ω : Type) where
  act : Act
  before : Session ω
  after : Session ω

/-- What a player reports when its playback is cut off. -/
def farewell (session : Session ω) (id : PlayerId) : List Event :=
  ((session.player? id).map Player.farewell).getD []

/-- How many playbacks of a player have begun. -/
def playbacks (session : Session ω) (id : PlayerId) : Nat :=
  ((session.player? id).map Player.playbacks).getD 0

/-- The act plays as it is: players of acts with its id play this act. -/
def PlaysAs (session : Session ω) (act : Act) : Prop :=
  ∀ player ∈ session.players, player.act.id = act.id → player.act = act

variable [Output ω]

namespace Cue

def player (cue : Cue ω) : PlayerId := cue.before.cued cue.act

/-- The act has been asked for, and no player but its own is concerned. -/
structure Called (cue : Cue ω) : Prop where
  answer : cue.before.perform (cue.before.cue cue.act) = some cue.after
  plays : ∃ player, cue.after.player? cue.player = some player ∧ player.act = cue.act
  spared : ∀ id, id ≠ cue.player → cue.after.player? id = cue.before.player? id
  now : cue.after.now = cue.before.now

/-- The act has been started, from its start node. -/
structure Begins (cue : Cue ω) : Prop extends Called cue where
  begins : ∃ start events, cue.act.startId? = some start ∧
    cue.after.eventsOf cue.player = cue.before.eventsOf cue.player ++
      cue.before.farewell cue.player ++ .nodeEntered cue.player cue.act.id start :: events
  counts : cue.after.playbacks cue.player = cue.before.playbacks cue.player + 1

/-- The act could not be started, because it has no nodes. -/
structure Refused (cue : Cue ω) : Prop extends Called cue where
  empty : cue.act.nodes = []
  idle : cue.after.isPlaying cue.player = false
  counts : cue.after.playbacks cue.player = cue.before.playbacks cue.player

end Cue

variable {session later : Session ω} {log : List (Moment TimerQueue ω)} {act : Act} {id : PlayerId}
  {player : Player} {result : Except SessionError Unit}

omit [Output ω] in
theorem playbacks_of_player? (found : session.player? id = some player) :
    session.playbacks id = player.playbacks := by
  rw [playbacks, found, Option.map_some, Option.getD_some]

theorem Lives.playbacks_call {reached : Player} {shown : Stage TimerQueue ω}
    (lives : Lives session log) (call : Call) (found : session.player? id = some player)
    (answer : player.answer session.stage call = some (reached, shown)) (other : PlayerId) :
    (session.replace reached shown).playbacks other = session.playbacks other +
      if other = id then (Episode.mk call player session.stage reached shown).begins.toNat else 0 := by
  have responds := lives.responds found answer
  have named : reached.id = id := responds.id.trans (id_of_player? found)
  rw [playbacks, player?_replace (named ▸ found), named]
  split
  next own => rw [own, playbacks_of_player? found, ← responds.playbacks, Option.map_some, Option.getD_some]
  next => rfl

/-- A session in which some players have lived, with the numbers of playbacks that they have begun. -/
def Counts (numbers : PlayerId → Nat) (session : Session ω) (log : List (Moment TimerQueue ω)) : Prop :=
  Lives session log ∧ ∀ id, session.playbacks id = numbers id

/-- While time passes, no playback begins. -/
theorem Counts.passes (numbers : PlayerId → Nat) : Passes (Counts (ω := ω) numbers) := by
  refine .of_ticks (fun window => ⟨?_, ?_⟩) ?_
  · rintro session log token clock ⟨lives, same⟩ - -
    exact ⟨lives.restage _, same⟩
  · rintro session log token clock player later stage ⟨lives, same⟩ - found answer
    refine ⟨lives.timer found answer, fun id => ?_⟩
    have popped : Lives (session.popped clock) log := lives.restage _
    have counted := popped.playbacks_call (.timer token) found answer id
    have quiet : (Episode.mk (.timer token) player (session.popped clock).stage later stage).begins =
        false := rfl
    rw [quiet, Bool.toNat_false, ite_self, Nat.add_zero] at counted
    exact counted.trans (same id)
  · rintro session log window ⟨lives, same⟩
    exact ⟨lives.restage _, same⟩

theorem Lives.playbacks_advanceTo {target : Nat} (lives : Lives session log)
    (answer : session.advanceTo target = some later) (id : PlayerId) :
    later.playbacks id = session.playbacks id :=
  ((Counts.passes session.playbacks).pass ⟨lives, fun _ => rfl⟩ answer).2 id

/-! ### The player of a cue -/

theorem perform_cue (session : Session ω) (act : Act) : session.perform (session.cue act) =
    ((session.boarded (session.cue act)).start (session.cued act)).map Prod.snd := by
  unfold cue cued
  cases session.playerFor? act.id with
  | none =>
    change ((session.play act).map Prod.snd) = _
    rw [play, Option.map_map]
    rfl
  | some player => rfl

theorem Lives.player?_next (lives : Lives session log) (act : Act) :
    session.player? (session.load act).1 = none := by
  rw [player?_eq_none]
  intro player member same
  have older := lives.numbered player member
  rw [same] at older
  exact Nat.lt_irrefl _ older

/-- The player that is about to play an act, in the session in which it is loaded. -/
structure Boards (session boarded : Session ω) (act : Act) (player : Player) : Prop where
  reachable : boarded.Reachable
  stage : boarded.stage = session.stage
  found : boarded.player? (session.cued act) = some player
  plays : player.act = act
  farewell : player.farewell = session.farewell (session.cued act)
  playbacks : player.playbacks = session.playbacks (session.cued act)
  spared : ∀ id, id ≠ session.cued act → boarded.player? id = session.player? id

theorem Reachable.boards (reachable : session.Reachable) (own : session.PlaysAs act) :
    ∃ player, session.Boards (session.boarded (session.cue act)) act player := by
  obtain ⟨log, lives⟩ := reachable.lives
  unfold cue
  cases plays : session.playerFor? act.id with
  | some id =>
    obtain ⟨player, member, rfl, same⟩ := exists_player_of_playerFor? plays
    have cued : session.cued act = player.id := by rw [Session.cued, plays, Option.getD_some]
    have found := lives.player?_of_mem member
    refine ⟨player, reachable, rfl, cued ▸ found, own player member same, ?_, ?_, fun _ _ => rfl⟩
    · rw [cued, Session.farewell, found, Option.map_some, Option.getD_some]
    · rw [cued, playbacks_of_player? found]
  | none =>
    have cued : session.cued act = (session.load act).1 := by
      rw [Session.cued, plays, Option.getD_none]
    have absent := lives.player?_next act
    obtain ⟨settings, players⟩ := player?_load act absent
    refine ⟨.load (session.load act).1 act settings session.seeding,
      reachable.perform (.load act) rfl, rfl, ?_, rfl, ?_, ?_, ?_⟩
    · rw [cued]
      exact (players _).trans (if_pos rfl)
    · rw [cued, Session.farewell, absent]
      rfl
    · rw [cued, Session.playbacks, absent]
      exact Nat.zero_div 2
    · intro id other
      exact (players id).trans (if_neg (cued ▸ other))

/-- The act begins, unless it has no nodes. -/
theorem Reachable.cue_cases (reachable : session.Reachable) (own : session.PlaysAs act)
    (answer : (session.boarded (session.cue act)).start (session.cued act) = some (result, later)) :
    result = .ok () ∧ Cue.Begins ⟨act, session, later⟩ ∨
      ∃ error, result = .error error ∧ Cue.Refused ⟨act, session, later⟩ := by
  -- from here on it does not matter whether the player was there before or has just been loaded
  obtain ⟨player, boards⟩ := reachable.boards own
  have performed : session.perform (session.cue act) = some later := by
    rw [perform_cue, answer, Option.map_some]
  generalize session.boarded (session.cue act) = boarded at answer boards
  obtain ⟨log, lives⟩ := boards.reachable.lives
  unfold Session.start at answer
  simp only [boards.found, Option.map_eq_some_iff, Prod.mk.injEq] at answer
  obtain ⟨⟨outcome, reached, shown⟩, started, rfl, rfl⟩ := answer
  have answered := Player.answer_start started
  have responds := lives.responds boards.found answered
  have named : reached.id = session.cued act := responds.id.trans (id_of_player? boards.found)
  have players := player?_replace (named ▸ boards.found) shown
  have called : Cue.Called ⟨act, session, boarded.replace reached shown⟩ := by
    refine ⟨performed, ⟨reached, ?_, responds.act.trans boards.plays⟩, ?_, ?_⟩
    · exact (players _).trans (if_pos named.symm)
    · intro id other
      rw [players id, if_neg (named ▸ other)]
      exact boards.spared id other
    · exact responds.now.trans (congrArg (fun stage => stage.clock.now) boards.stage)
  have own : player.id = session.cued act := id_of_player? boards.found
  have counted := lives.playbacks_call .start boards.found answered (session.cued act)
  rw [if_pos rfl, playbacks_of_player? boards.found, boards.playbacks] at counted
  rcases responds.start_cases with ⟨absent, fails, idle⟩ | ⟨start, rest, found, succeeds, tells, told⟩
  · obtain rfl : outcome = .error .emptyGraph := by simpa [started] using fails
    have none : (Episode.mk .start player boarded.stage reached shown).begins = false := by
      simp [Episode.begins, started]
    rw [none] at counted
    refine .inr ⟨_, rfl, called, boards.plays ▸ Act.startId?_eq_none.1 absent, ?_, counted⟩
    exact (isPlaying_of_player? ((players _).trans (if_pos named.symm))).trans idle
  · obtain rfl : outcome = .ok () := by simpa [started] using succeeds
    have one : (Episode.mk .start player boarded.stage reached shown).begins = true := by
      simp [Episode.begins, started]
    rw [one] at counted
    have heard := eventsOf_replace tells told reached (session.cued act)
    rw [if_pos own.symm, eventsOf, eventsOf, Session.events, Session.events, boards.stage,
      boards.farewell, own, boards.plays, ← List.append_assoc] at heard
    exact .inl ⟨rfl, called, ⟨start, rest, boards.plays ▸ found, heard⟩, counted⟩

section Playbacks

variable {session : Session Universe} {cue : Cue Universe} {now : Nat}

namespace Cue.Called

theorem continues (called : cue.Called) (reachable : session.Reachable)
    (caught : session.advanceTo now = some cue.before) :
    Continues session cue.before ∧ Continues cue.before cue.after := by
  have passes : Continues session cue.before :=
    .perform reachable (.advanceTo now) id id caught
  exact ⟨passes, .cue passes.reachable called.answer⟩

theorem playbacks_other (called : cue.Called) {id : PlayerId} (other : id ≠ cue.player) :
    cue.after.playbacks id = cue.before.playbacks id := by
  unfold playbacks
  rw [called.spared id other]

end Cue.Called

theorem Cue.Begins.playbacks (begins : cue.Begins) (id : PlayerId) :
    cue.after.playbacks id = cue.before.playbacks id + [cue.player].count id := by
  by_cases own : id = cue.player
  · rw [own, begins.counts, List.count_singleton_self]
  · rw [begins.playbacks_other own, List.count_singleton, if_neg (by simpa using Ne.symm own),
      Nat.add_zero]

theorem Cue.Refused.playbacks (refused : cue.Refused) (id : PlayerId) :
    cue.after.playbacks id = cue.before.playbacks id := by
  by_cases own : id = cue.player
  · rw [own, refused.counts]
  · exact refused.playbacks_other own

end Playbacks

end Session

namespace Runner

variable {κ : Type} [ArtNet.Link κ] {runner : Runner κ} {clock : Clock} {synced : Session Universe}
  {key : String} {act : Act}

theorem startAct_eq (advanced : runner.session.advanceTo clock.now = some synced)
    (found : runner.find? key = some act) : runner.startAct clock key =
      ((synced.boarded (synced.cue act)).start (synced.cued act)).map fun (result, session) =>
        match result with
        | .error error => (.error (.session error), { runner with session })
        | .ok () => (.ok (synced.cued act), flush { runner with session } (clock.after 1).now) := by
  have caught : runner.syncClock clock.now = some { runner with session := synced } := by
    rw [syncClock, advanced, Option.map_some]
  have known : find? { runner with session := synced } key = some act := found
  unfold startAct Session.cue Session.cued
  simp only [caught, Option.bind_eq_bind, Option.bind_some, known]
  cases plays : synced.playerFor? act.id with
  | some player =>
    simp only [Session.boarded, Option.getD_some]
    cases synced.start player with
    | none => rfl
    | some started =>
      obtain ⟨result, session⟩ := started
      cases result with
      | error => rfl
      | ok => rfl
  | none =>
    simp only [Session.boarded, Option.getD_none, Session.play]
    cases (synced.load act).2.start (synced.load act).1 with
    | none => rfl
    | some started =>
      obtain ⟨result, session⟩ := started
      cases result with
      | error => rfl
      | ok => rfl

end Runner

end LightingDesk
