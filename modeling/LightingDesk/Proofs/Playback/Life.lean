import LightingDesk.Proofs.Playback.Playback

/-!
The life of a player: loaded once, then started, stopped and given timers in any order, on a stage
that may be another one each time. `Life.chronicle` says what holds of it: every playback is a walk of
cursors, a playing player waits for the next of them, and an idle one waits for nothing.
-/

namespace LightingDesk

variable {σ ω : Type} [Scheduler σ] [Output ω]

/-- A player in the midst of the playback that `token` names, about to take `step`. -/
structure Underway (act : Act) (token : Token) (past : List (Moment σ ω)) (player : Player)
    (step : Step) : Prop where
  plays : player.act = act
  named : player.token = token
  playing : player.playing = true
  free : player.waiting = none
  shallow : player.maxDepth ≤ act.distinctIds.length
  playback : Playback act token past (some (player.cursor step))

/-- A player after a run of steps of the playback that `token` names. -/
structure Rests (act : Act) (token : Token) (past : List (Moment σ ω)) (player : Player) : Prop where
  plays : player.act = act
  id : player.id = token.player
  shallow : player.maxDepth ≤ act.distinctIds.length
  ends : player.playing = false → player.generation = token.generation + 1 ∧
    player.waiting = none ∧ player.frames = [] ∧ Playback act token past none
  waits : player.playing = true → player.generation = token.generation ∧
    ∃ wait, player.waiting = some wait ∧
      Playback act token past (some (player.cursor wait.resume))

namespace Underway

variable {act : Act} {token : Token} {past : List (Moment σ ω)} {player later : Player}
  {stage stage' : Stage σ ω} {step next : Step}

theorem burst (underway : Underway act token past player step) (stage : Stage σ ω) (fresh : Bool) :
    Underway act token past (player.burst stage fresh) step := by
  obtain ⟨burstAt, burstSteps, same⟩ := player.burst_eq stage fresh
  rw [same]
  exact ⟨underway.plays, underway.named, underway.playing, underway.free, underway.shallow,
    underway.playback⟩

theorem take (underway : Underway act token past player step) (stage : Stage σ ω)
    (answered : (player.counted.execute stage step).isSome = true) :
    Playback act token (past ++ [⟨player, stage, step⟩]) (Moment.mk player stage step).due? :=
  .take underway.playback underway.plays underway.named underway.playing underway.free answered

theorem shallow_of_continues (underway : Underway act token past player step)
    (continues : player.counted.Continues later)
    (playback : Playback act token (past ++ [⟨player, stage, step⟩]) (some (later.cursor next))) :
    later.maxDepth ≤ act.distinctIds.length := by
  have deep : later.frames.length ≤ act.distinctIds.length := playback.fits.length_le
  have before : player.counted.maxDepth ≤ act.distinctIds.length := underway.shallow
  exact continues.maxDepth.trans (max_le before deep)

theorem goes (underway : Underway act token past player step)
    (taken : player.counted.execute stage step = some (later, stage', some next)) :
    Underway act token (past ++ [⟨player, stage, step⟩]) later next := by
  have playback := underway.take stage (by rw [taken]; rfl)
  have due : (Moment.mk player stage step).due? = some (later.cursor next) := by
    simp only [Moment.due?, Moment.turn, taken]
  rw [due] at playback
  have turned : player.counted.Turned stage step _ := Player.execute_turned underway.free taken
  cases turned with
  | goesOn _ continues free =>
    have token : later.token = player.token := by
      simp only [Player.token, continues.id, continues.generation]
      rfl
    exact ⟨continues.act.trans underway.plays, token.trans underway.named,
      continues.playing.trans underway.playing, free,
      underway.shallow_of_continues continues playback, playback⟩

theorem rests (underway : Underway act token past player step)
    (taken : player.counted.execute stage step = some (later, stage', none)) :
    Rests act token (past ++ [⟨player, stage, step⟩]) later := by
  have playback := underway.take stage (by rw [taken]; rfl)
  have due : (Moment.mk player stage step).due? =
      later.waiting.map fun wait => later.cursor wait.resume := by
    simp only [Moment.due?, Moment.turn, taken]
  rw [due] at playback
  have id : player.id = token.player := congrArg Token.player underway.named
  have generation : player.generation = token.generation := congrArg Token.generation underway.named
  have turned : player.counted.Turned stage step _ := Player.execute_turned underway.free taken
  cases turned with
  | stopped =>
    refine ⟨underway.plays, id, underway.shallow, ?_, ?_⟩
    · intro
      exact ⟨congrArg (· + 1) generation, rfl, rfl, playback⟩
    · intro playing
      cases playing
  | waits _ continues waiting =>
    rw [waiting, Option.map_some] at playback
    refine ⟨continues.act.trans underway.plays, continues.id.trans id,
      underway.shallow_of_continues continues playback, ?_, ?_⟩
    · intro idle
      rw [continues.playing] at idle
      exact absurd underway.playing (by simpa [Player.counted] using idle)
    · intro
      exact ⟨continues.generation.trans generation, _, waiting, playback⟩
  | stuck empty complete =>
    have allowed := underway.playback.fits.allowed
    rw [complete] at allowed
    exact absurd empty allowed

theorem yields (underway : Underway act token past player step)
    (armed : player.armYield stage step = some (later, stage')) : Rests act token past later := by
  obtain ⟨handle, clock, -, rfl, -⟩ := Player.armYield_eq_some underway.free armed
  refine ⟨underway.plays, congrArg Token.player underway.named, underway.shallow, ?_, ?_⟩
  · intro idle
    exact absurd underway.playing (by simpa using idle)
  · intro
    exact ⟨congrArg Token.generation underway.named, _, rfl, underway.playback⟩

theorem drive {fresh : Bool} (underway : Underway act token past player step)
    (driven : player.drive stage step fresh = some (later, stage')) :
    Rests act token (past ++ player.driveMoments stage step fresh) later :=
  Player.run_rule (P := fun past player _ step => Underway act token past player step)
    (Q := fun past later _ => Rests act token past later) goes rests yields
    (underway.burst stage fresh) driven

theorem moments {fresh : Bool} (underway : Underway act token past player step) :
    ∀ moment ∈ player.driveMoments stage step fresh,
      ∃ before : List (Moment σ ω), Underway act token before moment.player moment.step :=
  Player.moments_rule (P := fun past player (_ : Stage σ ω) step =>
    Underway act token past player step) goes (underway.burst stage fresh)

end Underway
/-- The moments of the playback that `token` names. -/
def Moment.playback (token : Token) (log : List (Moment σ ω)) : List (Moment σ ω) :=
  log.filter fun moment => moment.player.token == token

/-- The player `id` of an act as it has become, and the moments of its life so far. -/
inductive Life (id : PlayerId) (act : Act) : Player → List (Moment σ ω) → Prop where
  | load (settings : EngineSettings) (seeding : Seeding) :
      Life id act (.load id act settings seeding) []
  | start {player log result later stage'} (before : Life id act player log) (stage : Stage σ ω)
      (answer : player.start stage = some (result, later, stage')) :
      Life id act later (log ++ player.startMoments stage)
  | stop {player log} (before : Life id act player log) (stage : Stage σ ω) :
      Life id act (player.stop stage).1 log
  | timer {player log later stage'} (before : Life id act player log) (stage : Stage σ ω)
      (token : Token) (answer : player.onTimer stage token = some (later, stage')) :
      Life id act later (log ++ player.timerMoments stage token)

/-- What holds of a player between calls, whatever its life was. -/
structure Chronicle (id : PlayerId) (act : Act) (player : Player) (log : List (Moment σ ω)) :
    Prop where
  named : player.id = id
  plays : player.act = act
  owned : ∀ moment ∈ log, moment.player.id = id ∧ moment.player.generation ≤ player.generation
  shallow : player.maxDepth ≤ act.distinctIds.length
  idles : player.playing = false → player.waiting = none ∧ player.frames = [] ∧
    ∀ moment ∈ log, moment.player.generation < player.generation
  waits : player.playing = true → ∃ wait, player.waiting = some wait ∧
    Playback act player.token (Moment.playback player.token log)
      (some (player.cursor wait.resume))
  playbacks : ∀ token, Moment.playback token log = [] ∨
    ∃ due, Playback act token (Moment.playback token log) due

omit [Scheduler σ] [Output ω] in
theorem Moment.playback_eq_nil {token : Token} {log : List (Moment σ ω)}
    (others : ∀ moment ∈ log, moment.player.token ≠ token) : Moment.playback token log = [] :=
  List.filter_eq_nil_iff.2 fun moment member => by simpa using others moment member

omit [Scheduler σ] [Output ω] in
theorem filter_append_of_kept {keep : Moment σ ω → Bool} {log new : List (Moment σ ω)}
    (kept : ∀ moment ∈ new, keep moment = true) :
    (log ++ new).filter keep = log.filter keep ++ new := by
  rw [List.filter_append, List.filter_eq_self.2 kept]

omit [Scheduler σ] [Output ω] in
theorem filter_append_of_dropped {keep : Moment σ ω → Bool} {log new : List (Moment σ ω)}
    (dropped : ∀ moment ∈ new, ¬keep moment = true) :
    (log ++ new).filter keep = log.filter keep := by
  rw [List.filter_append, List.filter_eq_nil_iff.2 dropped, List.append_nil]

omit [Scheduler σ] [Output ω] in
theorem Moment.playback_append_self {token : Token} {log new : List (Moment σ ω)}
    (named : ∀ moment ∈ new, moment.player.token = token) :
    Moment.playback token (log ++ new) = Moment.playback token log ++ new :=
  filter_append_of_kept fun moment member => by simpa using named moment member

omit [Scheduler σ] [Output ω] in
theorem Moment.playback_append_other {token other : Token} {log new : List (Moment σ ω)}
    (named : ∀ moment ∈ new, moment.player.token = token) (different : other ≠ token) :
    Moment.playback other (log ++ new) = Moment.playback other log :=
  filter_append_of_dropped fun moment member => by
    simpa using named moment member ▸ Ne.symm different

theorem Rests.exists_playback {act : Act} {token : Token} {past : List (Moment σ ω)}
    {player : Player} (rests : Rests act token past player) : ∃ due, Playback act token past due := by
  cases playing : player.playing with
  | false => exact ⟨_, (rests.ends playing).2.2.2⟩
  | true =>
    obtain ⟨-, wait, -, playback⟩ := rests.waits playing
    exact ⟨_, playback⟩

/-- The moments of a run lengthen the playback that it belongs to. -/
theorem Rests.playback_eq {act : Act} {token : Token} {log new : List (Moment σ ω)} {player : Player}
    (rests : Rests act token (Moment.playback token log ++ new) player)
    (playing : player.playing = true) :
    Moment.playback player.token (log ++ new) = Moment.playback token log ++ new := by
  obtain ⟨generation, wait, -, playback⟩ := rests.waits playing
  rw [Player.token, generation, rests.id]
  exact Moment.playback_append_self fun moment member =>
    (playback.live (List.mem_append_right _ member)).2.2

namespace Chronicle

variable {id : PlayerId} {act : Act} {player later : Player} {log new : List (Moment σ ω)}

theorem load (id : PlayerId) (act : Act) (settings : EngineSettings) (seeding : Seeding) :
    Chronicle id act (Player.load id act settings seeding) ([] : List (Moment σ ω)) where
  named := rfl
  plays := rfl
  owned := by simp
  shallow := Nat.zero_le _
  idles := by
    intro
    exact ⟨rfl, rfl, by simp⟩
  waits := by
    intro playing
    cases playing
  playbacks := fun token => .inl rfl

theorem stop (chronicle : Chronicle id act player log) (stage : Stage σ ω) :
    Chronicle id act (player.stop stage).1 log := by
  rw [Player.stop_fst]
  cases playing : player.playing with
  | false => exact chronicle
  | true =>
    have earlier : ∀ moment ∈ log, moment.player.generation < player.ended.generation :=
      fun moment member => Nat.lt_succ_of_le (chronicle.owned moment member).2
    refine ⟨chronicle.named, chronicle.plays, ?_, chronicle.shallow, ?_, ?_, chronicle.playbacks⟩
    · intro moment member
      exact ⟨(chronicle.owned moment member).1, (earlier moment member).le⟩
    · intro
      exact ⟨rfl, rfl, earlier⟩
    · intro playing
      cases playing

/-- The moments that a run adds belong to the playback that runs. -/
theorem extend {token : Token} (chronicle : Chronicle id act player log) (owner : token.player = id)
    (latest : ∀ moment ∈ log, moment.player.generation ≤ token.generation)
    (rests : Rests act token (Moment.playback token log ++ new) later) :
    Chronicle id act later (log ++ new) := by
  obtain ⟨due, playback⟩ := rests.exists_playback
  have named : ∀ moment ∈ new, moment.player.token = token := fun moment member =>
    (playback.live (List.mem_append_right _ member)).2.2
  have generations : ∀ moment ∈ log ++ new, moment.player.generation ≤ token.generation := by
    intro moment member
    rcases List.mem_append.1 member with member | member
    · exact latest moment member
    · exact (congrArg Token.generation (named moment member)).le
  have reached : token.generation ≤ later.generation := by
    cases playing : later.playing with
    | false => exact (rests.ends playing).1 ▸ Nat.le_succ _
    | true => exact (rests.waits playing).1 ▸ le_rfl
  refine ⟨rests.id.trans owner, rests.plays, ?_, rests.shallow, ?_, ?_, ?_⟩
  · intro moment member
    refine ⟨?_, (generations moment member).trans reached⟩
    rcases List.mem_append.1 member with member | member
    · exact (chronicle.owned moment member).1
    · exact (congrArg Token.player (named moment member)).trans owner
  · intro idle
    obtain ⟨generation, free, frames, -⟩ := rests.ends idle
    exact ⟨free, frames, fun moment member =>
      generation ▸ Nat.lt_succ_of_le (generations moment member)⟩
  · intro playing
    obtain ⟨generation, wait, waiting, standing⟩ := rests.waits playing
    have current : later.token = token := by
      rw [Player.token, generation, rests.id]
    refine ⟨wait, waiting, ?_⟩
    rw [rests.playback_eq playing, current]
    exact standing
  · intro other
    by_cases same : other = token
    · rw [same, Moment.playback_append_self named]
      exact .inr ⟨due, playback⟩
    · rw [Moment.playback_append_other named same]
      exact chronicle.playbacks other

/-- A playback that begins has a token of its own. -/
theorem begins {node : NodeId} (chronicle : Chronicle id act player log)
    (idle : player.playing = false) (stage : Stage σ ω) (found : player.act.startId? = some node) :
    Underway act (player.begun stage).token (Moment.playback (player.begun stage).token log)
      (player.begun stage) (.enter node) := by
  obtain ⟨free, -, earlier⟩ := chronicle.idles idle
  have fresh : Moment.playback (player.begun stage).token log = [] := by
    apply Moment.playback_eq_nil
    intro moment member same
    have generation : moment.player.generation = player.generation + 1 :=
      congrArg Token.generation same
    have before := earlier moment member
    omega
  rw [chronicle.plays] at found
  rw [fresh]
  exact ⟨chronicle.plays, rfl, rfl, free, chronicle.shallow, .start found _⟩

/-- A start begins a playback, after it has stopped the one that is under way. -/
theorem restarts {node : NodeId} (chronicle : Chronicle id act player log) (stage : Stage σ ω)
    (found : player.act.startId? = some node) :
    Underway act ((player.stop stage).1.begun (player.stop stage).2).token
      (Moment.playback ((player.stop stage).1.begun (player.stop stage).2).token log)
      ((player.stop stage).1.begun (player.stop stage).2) (.enter node) :=
  (chronicle.stop stage).begins (player.stop_playing stage) _ ((player.stop_act stage).symm ▸ found)

theorem start {stage stage' : Stage σ ω} {result : Except Fault Unit}
    (chronicle : Chronicle id act player log)
    (answer : player.start stage = some (result, later, stage')) :
    Chronicle id act later (log ++ player.startMoments stage) := by
  have stopped := chronicle.stop stage
  obtain ⟨-, -, rfl, -, none⟩ | ⟨node, found, -, driven, moments⟩ := Player.start_cases answer
  · rw [none, List.append_nil]
    exact stopped
  · rw [moments]
    refine stopped.extend stopped.named ?_ ((chronicle.restarts stage found).drive driven)
    intro moment member
    exact (stopped.owned moment member).2.trans (Nat.le_succ _)

/-- A delivered timer resumes the playback with the step that waits. -/
theorem resumes {wait : Wait} (chronicle : Chronicle id act player log)
    (playing : player.playing = true) (waiting : player.waiting = some wait) :
    Underway act player.token (Moment.playback player.token log)
      { player with waiting := none } wait.resume := by
  obtain ⟨other, found, playback⟩ := chronicle.waits playing
  rw [waiting, Option.some.injEq] at found
  subst found
  exact ⟨chronicle.plays, rfl, playing, rfl, chronicle.shallow, playback⟩

theorem timer {stage stage' : Stage σ ω} {token : Token} (chronicle : Chronicle id act player log)
    (answer : player.onTimer stage token = some (later, stage')) :
    Chronicle id act later (log ++ player.timerMoments stage token) := by
  obtain ⟨rfl, -, none⟩ | ⟨wait, -, playing, waiting, driven, moments⟩ := Player.timer_cases answer
  · rw [none, List.append_nil]
    exact chronicle
  · rw [moments]
    exact chronicle.extend chronicle.named
      (fun moment member => (chronicle.owned moment member).2)
      ((chronicle.resumes playing waiting).drive driven)

end Chronicle

theorem Life.chronicle {id : PlayerId} {act : Act} {player : Player} {log : List (Moment σ ω)}
    (life : Life id act player log) : Chronicle id act player log := by
  induction life with
  | load settings seeding => exact .load id act settings seeding
  | start before stage answer ih => exact ih.start answer
  | stop before stage ih => exact ih.stop stage
  | timer before stage token answer ih => exact ih.timer answer

theorem Life.stop_waiting {id : PlayerId} {act : Act} {player : Player} {log : List (Moment σ ω)}
    (life : Life id act player log) (stage : Stage σ ω) : (player.stop stage).1.waiting = none :=
  ((life.chronicle.stop stage).idles (player.stop_playing stage)).1

end LightingDesk
