import LightingDesk.Proofs.Playback.Lives
import LightingDesk.Proofs.Playback.Stack
import LightingDesk.Proofs.Playback.Timers

/-!
Players and the clock of a session keep step: between requests, and while the timers of a window are
delivered, the armed timers are those that playing players wait for. `Session.Reachable.timers_match`
is the main result.
-/

namespace LightingDesk

open TimerQueue

/-- The timers that are armed for a player are what it waits for. -/
structure Player.Awaits (player : Player) (own : List Timer) : Prop where
  idles : player.playing = false → own = []
  waits : player.playing = true → ∃ wait timer, player.waiting = some wait ∧ own = [timer] ∧
    timer.handle = wait.handle ∧ timer.token = player.token

theorem Player.Awaits.perm {player : Player} {own other : List Timer} (awaits : player.Awaits own)
    (same : other.Perm own) : player.Awaits other where
  idles := by
    intro idle
    rw [awaits.idles idle] at same
    exact same.eq_nil
  waits := by
    intro playing
    obtain ⟨wait, timer, waiting, rfl, matched⟩ := awaits.waits playing
    exact ⟨wait, timer, waiting, same.eq_singleton, matched⟩

section Calls

variable {ω : Type} [Output ω] {act : Act} {token : Token} {id : PlayerId}
  {past log : List (Moment TimerQueue ω)} {player later : Player}
  {stage stage' : Stage TimerQueue ω} {step : Step} {before : TimerQueue} {own : List Timer}

theorem Underway.rests_awaits (underway : Underway act token past player step)
    (serves : Serves token.player [] before stage.clock)
    (taken : player.counted.execute stage step = some (later, stage', none)) :
    ∃ own, Serves token.player own before stage'.clock ∧ later.Awaits own := by
  have turned : player.counted.Turned stage step _ := Player.execute_turned underway.free taken
  cases turned with
  | stopped =>
    refine ⟨[], serves, ?_, ?_⟩
    · intro
      rfl
    · intro playing
      cases playing
  | waits _ continues waiting armed =>
    rw [← underway.named] at serves
    obtain ⟨timer, handle, named, served⟩ := Serves.arm serves armed
    rw [underway.named] at served
    refine ⟨[timer], served, ?_, ?_⟩
    · intro idle
      rw [continues.playing] at idle
      exact absurd underway.playing (by simpa [Player.counted] using idle)
    · intro
      refine ⟨_, timer, waiting, rfl, handle, named.trans ?_⟩
      rw [Player.token, Player.token, continues.id, continues.generation]
      rfl
  | stuck empty complete =>
    have allowed := underway.playback.fits.allowed
    rw [complete] at allowed
    exact absurd empty allowed

theorem Underway.yields_awaits (underway : Underway act token past player step)
    (serves : Serves token.player [] before stage.clock)
    (armed : player.armYield stage step = some (later, stage')) :
    ∃ own, Serves token.player own before stage'.clock ∧ later.Awaits own := by
  obtain ⟨handle, clock, scheduled, rfl, rfl⟩ := Player.armYield_eq_some underway.free armed
  rw [← underway.named] at serves
  obtain ⟨timer, handle, named, served⟩ := Serves.arm serves scheduled
  rw [underway.named] at served
  refine ⟨[timer], served, ?_, ?_⟩
  · intro idle
    exact absurd underway.playing (by simpa using idle)
  · intro
    exact ⟨_, timer, rfl, rfl, handle, named⟩

theorem Underway.drive_awaits {fresh : Bool} (underway : Underway act token past player step)
    (serves : Serves token.player [] before stage.clock)
    (driven : player.drive stage step fresh = some (later, stage')) :
    ∃ own, Serves token.player own before stage'.clock ∧ later.Awaits own := by
  refine Player.run_rule
    (P := fun past player (stage : Stage TimerQueue ω) step =>
      Underway act token past player step ∧ Serves token.player [] before stage.clock)
    (Q := fun _ later (stage : Stage TimerQueue ω) =>
      ∃ own, Serves token.player own before stage.clock ∧ later.Awaits own)
    ?_ ?_ ?_ ⟨underway.burst stage fresh, serves⟩ driven
  · rintro past player stage step later stage' next ⟨underway, serves⟩ taken
    refine ⟨underway.goes taken, ?_⟩
    have turned : player.counted.Turned stage step _ := Player.execute_turned underway.free taken
    cases turned with
    | goesOn _ _ _ clock => exact clock ▸ serves
  · rintro past player stage step later stage' ⟨underway, serves⟩ taken
    exact underway.rests_awaits serves taken
  · rintro past player stage step later stage' ⟨underway, serves⟩ armed
    exact underway.yields_awaits serves armed

omit [Output ω] in
theorem Player.Awaits.stop (awaits : player.Awaits own) (serves : Serves id own before stage.clock) :
    Serves id [] before (player.stop stage).2.clock ∧ (player.stop stage).1.Awaits [] := by
  cases playing : player.playing with
  | false =>
    rw [awaits.idles playing] at serves awaits
    simpa [Player.stop, playing] using ⟨serves, awaits⟩
  | true =>
    obtain ⟨wait, timer, waiting, rfl, handle, -⟩ := awaits.waits playing
    simp only [Player.stop, playing, if_true, Player.finish, waiting]
    rw [← handle]
    refine ⟨serves.cancel, ?_, ?_⟩
    · intro
      rfl
    · intro playing
      cases playing

theorem Chronicle.start_awaits {result : Except Fault Unit} (chronicle : Chronicle id act player log)
    (awaits : player.Awaits own) (serves : Serves id own before stage.clock)
    (answer : player.start stage = some (result, later, stage')) :
    ∃ own, Serves id own before stage'.clock ∧ later.Awaits own := by
  obtain ⟨cleared, idle⟩ := awaits.stop serves
  have stopped := chronicle.stop stage
  obtain ⟨-, -, rfl, rfl, -⟩ | ⟨node, found, -, driven, -⟩ := Player.start_cases answer
  · exact ⟨[], cleared, idle⟩
  · have underway := chronicle.restarts stage found
    have owner : ((player.stop stage).1.begun (player.stop stage).2).token.player = id :=
      stopped.named
    have awaits := underway.drive_awaits (owner.symm ▸ cleared) driven
    rwa [owner] at awaits

/-- A delivered timer is the one that its player waits for, and the player accepts it. -/
theorem Player.Awaits.accepts {timer : Timer} {clock after : TimerQueue}
    (awaits : player.Awaits own) (serves : Serves timer.token.player own before clock)
    (gives : clock.Gives timer after) :
    player.playing = true ∧ timer.token = player.token ∧
      Serves timer.token.player [] before after ∧
      ∃ wait, player.waiting = some wait ∧ wait.handle = timer.handle ∧
        ∀ stage : Stage TimerQueue ω, player.onTimer stage timer.token =
          { player with waiting := none }.drive stage wait.resume wait.yielded := by
  have member := serves.mem_of_gives gives
  cases playing : player.playing with
  | false => simp [awaits.idles playing] at member
  | true =>
    obtain ⟨wait, other, waiting, rfl, handle, token⟩ := awaits.waits playing
    obtain rfl := List.mem_singleton.1 member
    refine ⟨rfl, token, serves.gives gives, wait, waiting, handle.symm, ?_⟩
    intro stage
    simp [Player.onTimer, token, playing, waiting]

end Calls

namespace Session

variable {ω : Type} [Output ω]

/-- The armed timers are those that the players of the session wait for. -/
structure Tied (session : Session ω) (log : List (Moment TimerQueue ω)) : Prop
    extends Lives session log where
  sound : session.stage.clock.Sound
  loaded : ∀ player ∈ session.players, player.Awaits (session.stage.clock.timersOf player.id)
  unloaded : ∀ id, session.player? id = none → session.stage.clock.timersOf id = []

namespace Tied

variable {session : Session ω} {log new : List (Moment TimerQueue ω)} {id : PlayerId}
  {player later : Player} {own : List Timer} {stage : Stage TimerQueue ω}

theorem create (output : ω) (scenes : SceneLibrary) (settings : EngineSettings) (seeding : Seeding) :
    Tied (.create output scenes settings seeding) [] where
  toLives := .create output scenes settings seeding
  sound := ⟨List.nodup_nil, by simp [Session.create, Stage.ofParts, TimerQueue.empty]⟩
  loaded := by simp [Session.create]
  unloaded := fun _ _ => rfl

theorem restage (tied : Tied session log) (stage : Stage TimerQueue ω)
    (pending : stage.clock.pending = session.stage.clock.pending)
    (nextHandle : stage.clock.nextHandle = session.stage.clock.nextHandle) :
    Tied { session with stage } log := by
  have timers (id : PlayerId) : stage.clock.timersOf id = session.stage.clock.timersOf id := by
    rw [timersOf, pending, timersOf]
  refine ⟨tied.toLives.restage stage, ⟨?_, ?_⟩, ?_, ?_⟩
  · exact pending ▸ tied.sound.distinct
  · intro timer member
    rw [nextHandle]
    exact tied.sound.issued timer (pending ▸ member)
  · intro player member
    rw [timers]
    exact tied.loaded player member
  · intro id absent
    rw [timers]
    exact tied.unloaded id absent

theorem load (tied : Tied session log) (act : Act) : Tied (session.load act).2 log := by
  have absent : session.player? ⟨session.nextPlayer⟩ = none := by
    rw [player?_eq_none]
    intro player member same
    have earlier := tied.numbered player member
    rw [same] at earlier
    exact Nat.lt_irrefl _ earlier
  refine ⟨tied.toLives.load act, tied.sound, ?_, ?_⟩
  · intro player member
    rcases List.mem_append.1 member with member | member
    · exact tied.loaded player member
    · rw [List.mem_singleton.1 member]
      refine ⟨fun _ => tied.unloaded _ absent, ?_⟩
      intro playing
      cases playing
  · intro id missing
    refine tied.unloaded id ?_
    rw [player?_eq_none] at missing ⊢
    exact fun player member => missing player (List.mem_append_left _ member)

theorem awaits (tied : Tied session log) (found : session.player? id = some player) :
    player.Awaits (session.stage.clock.timersOf id) := by
  have awaits := tied.loaded player (mem_of_player? found)
  rwa [id_of_player? found] at awaits

theorem remove (tied : Tied session log) (id : PlayerId)
    (idle : ∀ player, session.player? id = some player → player.playing = false) :
    Tied { session with players := session.players.filter fun other => other.id != id } log := by
  refine ⟨tied.toLives.remove id, tied.sound, ?_, ?_⟩
  · exact fun player member => tied.loaded player (List.mem_of_mem_filter member)
  · intro other missing
    by_cases same : other = id
    · subst same
      cases found : session.player? other with
      | none => exact tied.unloaded other found
      | some player => exact (tied.awaits found).idles (idle player found)
    · refine tied.unloaded other ?_
      rw [player?_eq_none] at missing ⊢
      intro player member named
      refine missing player (List.mem_filter.2 ⟨member, ?_⟩) named
      rw [named]
      simpa using same

theorem replace {act : Act} (tied : Tied session log) (found : session.player? id = some player)
    (life : Life id act later (Moment.ofPlayer id log ++ new))
    (serves : Serves id own session.stage.clock stage.clock) (awaits : later.Awaits own) :
    Tied (session.replace later stage) (log ++ new) := by
  refine ⟨tied.toLives.replace found life stage, serves.sound, ?_, ?_⟩
  · intro other member
    rcases mem_replace member with rfl | ⟨listed, different⟩
    · rw [life.chronicle.named]
      exact serves.own.symm ▸ awaits
    · rw [life.chronicle.named] at different
      exact (tied.loaded other listed).perm (serves.others other.id different)
  · intro other missing
    have absent : other ∉ session.players.map Player.id := by
      rw [← ids_replace session later stage]
      simpa [player?_eq_none] using missing
    have different : other ≠ id := by
      rintro rfl
      exact absent (List.mem_map.2 ⟨player, mem_of_player? found, id_of_player? found⟩)
    have none := tied.unloaded other (by simpa [player?_eq_none] using absent)
    exact (none ▸ serves.others other different).eq_nil

theorem start {result : Except Fault Unit} (tied : Tied session log)
    (found : session.player? id = some player)
    (answer : player.start session.stage = some (result, later, stage)) :
    Tied (session.replace later stage) (log ++ player.startMoments session.stage) := by
  obtain ⟨act, life⟩ := tied.life found
  obtain ⟨own, serves, awaits⟩ :=
    life.chronicle.start_awaits (tied.awaits found) (.refl tied.sound rfl) answer
  exact tied.replace found (life.start _ answer) serves awaits

theorem stop_serves (tied : Tied session log) (found : session.player? id = some player) :
    Serves id [] session.stage.clock (player.stop session.stage).2.clock ∧
      (player.stop session.stage).1.Awaits [] :=
  (tied.awaits found).stop (.refl tied.sound rfl)

theorem stop (tied : Tied session log) (found : session.player? id = some player) :
    Tied (session.replace (player.stop session.stage).1 (player.stop session.stage).2) log := by
  obtain ⟨act, life⟩ := tied.life found
  obtain ⟨serves, awaits⟩ := tied.stop_serves found
  have stopped := life.stop session.stage
  rw [← List.append_nil (Moment.ofPlayer id log)] at stopped
  have replaced := tied.replace found stopped serves awaits
  rwa [List.append_nil] at replaced

/-- The owner of a timer that is armed is loaded and playing, and waits for this timer. -/
theorem accepts {timer : Timer} {after : TimerQueue} (tied : Tied session log)
    (gives : session.stage.clock.Gives timer after) :
    ∃ player, session.player? timer.token.player = some player ∧ player.playing = true ∧
      timer.token = player.token ∧
      Serves timer.token.player [] session.stage.clock after ∧
      ∃ wait, player.waiting = some wait ∧ wait.handle = timer.handle ∧
        ∀ stage : Stage TimerQueue ω, player.onTimer stage timer.token =
          { player with waiting := none }.drive stage wait.resume wait.yielded := by
  have serves : Serves timer.token.player _ session.stage.clock session.stage.clock :=
    .refl tied.sound rfl
  cases found : session.player? timer.token.player with
  | none =>
    have member := serves.mem_of_gives gives
    rw [tied.unloaded _ found] at member
    simp at member
  | some player => exact ⟨player, rfl, (tied.awaits found).accepts serves gives⟩

theorem timer {window : Window} {token : Token} {clock : TimerQueue} (tied : Tied session log)
    (popped : session.stage.clock.pop? window = some (token, clock))
    (found : session.player? token.player = some player)
    (answer : player.onTimer (session.popped clock).stage token = some (later, stage)) :
    Tied ((session.popped clock).replace later stage)
      (log ++ player.timerMoments (session.popped clock).stage token) := by
  obtain ⟨timer, rfl, gives⟩ := gives_of_pop? popped
  obtain ⟨other, same, playing, named, cleared, wait, waiting, -, drives⟩ := tied.accepts gives
  obtain rfl := Option.some.inj (found.symm.trans same)
  obtain ⟨act, life⟩ := tied.life found
  have lived := life.timer _ timer.token answer
  rw [drives] at answer
  have owner : player.token.player = timer.token.player := named ▸ rfl
  have underway := life.chronicle.resumes playing waiting
  obtain ⟨own, serves, awaits⟩ := underway.drive_awaits (owner.symm ▸ cleared) answer
  exact tied.replace found lived (owner ▸ serves) awaits

theorem kept : Kept (Tied (ω := ω)) where
  create := create
  restage := fun stage tied clock _ => tied.restage stage (clock ▸ rfl) (clock ▸ rfl)
  load := fun act tied => tied.load act
  remove := fun id tied idle => tied.remove id idle
  start := fun tied found answer => tied.start found answer
  stop := fun tied found => tied.stop found
  drop := by
    intro session log window token clock tied popped absent
    obtain ⟨timer, rfl, gives⟩ := gives_of_pop? popped
    obtain ⟨player, found, -⟩ := tied.accepts gives
    rw [absent] at found
    simp at found
  timer := fun tied popped found answer => tied.timer popped found answer
  close := fun _ tied => tied.restage _ rfl rfl

theorem length_timersOf_le (tied : Tied session log) (id : PlayerId) :
    (session.stage.clock.timersOf id).length ≤ 1 := by
  cases found : session.player? id with
  | none =>
    rw [tied.unloaded id found]
    exact Nat.zero_le _
  | some player =>
    have awaits := tied.awaits found
    cases playing : player.playing with
    | false =>
      rw [awaits.idles playing]
      exact Nat.zero_le _
    | true =>
      obtain ⟨wait, timer, -, own, -⟩ := awaits.waits playing
      rw [own]
      exact Nat.le_refl _

/-- No player has two timers, and those who have one are those who play. -/
theorem owners_perm (tied : Tied session log) :
    (session.stage.clock.pending.map fun timer => timer.token.player).Perm
      ((session.players.filter Player.playing).map Player.id) := by
  rw [List.perm_ext_iff_of_nodup]
  · intro id
    constructor
    · intro member
      obtain ⟨timer, armed, rfl⟩ := List.mem_map.1 member
      have own : timer ∈ session.stage.clock.timersOf timer.token.player :=
        List.mem_filter.2 ⟨armed, by simp⟩
      cases found : session.player? timer.token.player with
      | none => simp [tied.unloaded _ found] at own
      | some player =>
        refine List.mem_map.2 ⟨player, List.mem_filter.2 ⟨mem_of_player? found, ?_⟩,
          id_of_player? found⟩
        cases playing : player.playing with
        | false => simp [(tied.awaits found).idles playing] at own
        | true => rfl
    · intro member
      obtain ⟨player, listed, rfl⟩ := List.mem_map.1 member
      obtain ⟨loaded, playing⟩ := List.mem_filter.1 listed
      obtain ⟨wait, timer, -, own, -⟩ := (tied.loaded player loaded).waits playing
      have armed : timer ∈ session.stage.clock.timersOf player.id :=
        own ▸ List.mem_singleton_self timer
      obtain ⟨pending, owner⟩ := List.mem_filter.1 armed
      exact List.mem_map.2 ⟨timer, pending, by simpa using owner⟩
  · rw [List.nodup_iff_count_le_one]
    intro id
    rw [List.count, List.countP_map, List.countP_eq_length_filter]
    exact tied.length_timersOf_le id
  · exact tied.distinct.sublist (List.filter_sublist.map _)

theorem pendingTimers_eq (tied : Tied session log) :
    session.pendingTimers = session.players.countP Player.playing := by
  have lengths := tied.owners_perm.length_eq
  rwa [List.length_map, List.length_map, ← List.countP_eq_length_filter] at lengths

end Tied

/-- Between requests the armed timers are those that the playing players wait for, one for each: no
player plays with nothing armed, and nothing is armed for a player that is idle or not loaded. So
every timer that a window delivers is accepted by its player. -/
theorem Reachable.timers_match {session : Session ω} (reachable : session.Reachable) :
    (∀ id player, session.player? id = some player → player.playing = true →
      ∃ wait timer, player.waiting = some wait ∧ session.stage.clock.timersOf id = [timer] ∧
        timer.handle = wait.handle ∧ timer.token = ⟨id, player.generation⟩) ∧
    (∀ id player, session.player? id = some player → player.playing = false →
      session.stage.clock.timersOf id = [] ∧ player.waiting = none ∧ player.frames = []) ∧
    (∀ id, session.player? id = none → session.stage.clock.timersOf id = []) ∧
    session.pendingTimers = session.players.countP Player.playing ∧
    ∀ window middle timer others, Firing window session middle →
      takeDue window middle.stage.clock.pending = some (timer, others) →
      ∃ player wait, middle.player? timer.token.player = some player ∧ player.playing = true ∧
        timer.token = player.token ∧ player.waiting = some wait ∧ wait.handle = timer.handle ∧
        ∀ stage : Stage TimerQueue ω, player.onTimer stage timer.token =
          { player with waiting := none }.drive stage wait.resume wait.yielded := by
  obtain ⟨log, run⟩ := reachable
  have tied := Tied.kept.run run
  refine ⟨?_, ?_, tied.unloaded, ?_, ?_⟩
  · intro id player found playing
    have awaits := (tied.awaits found).waits playing
    rwa [Player.token, id_of_player? found] at awaits
  · intro id player found idle
    obtain ⟨act, life⟩ := tied.life found
    obtain ⟨free, frames, -⟩ := life.chronicle.idles idle
    exact ⟨(tied.awaits found).idles idle, free, frames⟩
  · have lengths := tied.owners_perm.length_eq
    rwa [List.length_map, List.length_map, ← List.countP_eq_length_filter] at lengths
  · intro window middle timer others firing taken
    obtain ⟨reached, tied⟩ := Tied.kept.firing tied firing
    have gives : middle.stage.clock.Gives timer
        { middle.stage.clock with pending := others } := ⟨takeDue_perm taken, rfl⟩
    obtain ⟨player, found, playing, token, -, wait, waiting, handle, drives⟩ := tied.accepts gives
    exact ⟨player, wait, found, playing, token, waiting, handle, drives⟩

/-- A session in which an act is played and left to wait. -/
theorem timers_match_selfNested :
    ∃ session : Session Universe, session.Reachable ∧ session.pendingTimers = 1 ∧
      session.players.countP Player.playing = 1 := by
  have played : ((Session.bare 3).perform (.play .selfNested)).map Session.pendingTimers = some 1 := by
    decide
  obtain ⟨session, answer, pending⟩ := Option.map_eq_some_iff.1 played
  have reachable : session.Reachable := ⟨_, .perform (.bare 3) (.play .selfNested) answer⟩
  exact ⟨session, reachable, pending, reachable.timers_match.2.2.2.1.symm.trans pending⟩

end Session

end LightingDesk
