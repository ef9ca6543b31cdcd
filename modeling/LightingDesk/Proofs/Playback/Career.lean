import LightingDesk.Proofs.Playback.Drive

/-!
The career of a player: the calls that were made on it since it was loaded, with what each of them
found and left. Every call has its own stage, so the clock may be any clock, and a timer may be
delivered whenever, in whatever order and how often its host likes.

`Chronicle.responds` lists what can come of a call.
-/

namespace LightingDesk

/-- What can be asked of a player. -/
inductive Call where
  | start
  | stop
  | timer (token : Token)
deriving DecidableEq, Repr

/-- One call, with the player and the stage that it found and those that it left. -/
structure Episode (σ ω : Type) where
  call : Call
  player : Player
  stage : Stage σ ω
  later : Player
  shown : Stage σ ω

section Events

variable {σ ω : Type}

/-- The events that a stage has been told since an earlier state of it. -/
def Stage.since (stage before : Stage σ ω) : List Event :=
  (stage.trace.toList.drop before.trace.size).filterMap TraceEntry.event?

theorem Stage.Tells.since_eq {before after : Stage σ ω} {events : List Event}
    (tells : before.Tells after events) : after.since before = events := by
  obtain ⟨entries, grown, rfl⟩ := tells
  rw [Stage.since, grown, ← Array.length_toList, List.drop_left]

/-- A report that a playback has ended. That an act without nodes cannot be started is none. -/
def Event.endsPlayback : Event → Bool
  | .stopped _ _ (.fault .emptyGraph) => false
  | .stopped .. => true
  | _ => false

theorem Event.IsPassing.endsPlayback {id : PlayerId} {act : ActId} {event : Event}
    (passing : event.IsPassing id act) : event.endsPlayback = false := by
  cases event with
  | stopped => exact passing.elim
  | nodeEntered | warning => rfl

theorem StopReason.IsNatural.endsPlayback {reason : StopReason} (natural : reason.IsNatural)
    (id : PlayerId) (act : ActId) : (Event.stopped id act reason).endsPlayback = true := by
  cases reason with
  | completed => rfl
  | stoppedByUser => rfl
  | fault fault =>
    cases fault with
    | emptyGraph => exact natural.elim
    | _ => rfl

def Episode.events (episode : Episode σ ω) : List Event := episode.shown.since episode.stage

/-- How many playbacks have ended in the call. -/
def Episode.ends (episode : Episode σ ω) : Nat := episode.events.countP Event.endsPlayback

/-- What a player reports when it is stopped. -/
def Player.farewell (player : Player) : List Event :=
  if player.playing then [.stopped player.id player.act.id .stoppedByUser] else []

end Events

variable {σ ω : Type} [Scheduler σ]

theorem Player.stop_tells (player : Player) (stage : Stage σ ω) :
    stage.Tells (player.stop stage).2 player.farewell := by
  unfold stop farewell
  split
  · unfold finish
    cases player.waiting with
    | none => exact stage.tells_emit _
    | some wait => exact (stage.withClock (Scheduler.cancel stage.clock wait.handle)).tells_emit _
  · exact .refl stage

variable [Output ω]

def Player.answer (player : Player) (stage : Stage σ ω) : Call → Option (Player × Stage σ ω)
  | .start => (player.start stage).map Prod.snd
  | .stop => some (player.stop stage)
  | .timer token => player.onTimer stage token

theorem Player.answer_start_iff {player later : Player} {stage shown : Stage σ ω} :
    player.answer stage .start = some (later, shown) ↔
      ∃ result, player.start stage = some (result, later, shown) := by
  simp [answer]

theorem Player.answer_start {player later : Player} {stage shown : Stage σ ω} {result : Except Fault Unit}
    (taken : player.start stage = some (result, later, shown)) :
    player.answer stage .start = some (later, shown) :=
  answer_start_iff.2 ⟨result, taken⟩

/-- The call is a start, and the act has been started. -/
def Episode.begins (episode : Episode σ ω) : Bool :=
  match episode.call, (episode.player.start episode.stage).map Prod.fst with
  | .start, some (.ok ()) => true
  | _, _ => false

/-- The player `id` of an act as it has become, and the calls that were made on it. -/
inductive Career (id : PlayerId) (act : Act) : Player → List (Episode σ ω) → Prop where
  | load (settings : EngineSettings) (seeding : Seeding) :
      Career id act (.load id act settings seeding) []
  | call {player log later shown} (before : Career id act player log) (call : Call)
      (stage : Stage σ ω) (answer : player.answer stage call = some (later, shown)) :
      Career id act later (log ++ [⟨call, player, stage, later, shown⟩])

/-- What can come of a call: nothing, the end of a playback, a start that is refused, or a run of
steps. -/
inductive Player.Responds (act : Act) (player : Player) (stage : Stage σ ω) :
    Call → Player → Stage σ ω → Prop where
  | ignored {call} (quiet : call ≠ .start) : Responds act player stage call player stage
  | stopped (playing : player.playing = true) :
      Responds act player stage .stop (player.stop stage).1 (player.stop stage).2
  | refused (absent : act.startId? = none)
      (fails : (player.start stage).map Prod.fst = some (.error .emptyGraph)) :
      Responds act player stage .start (player.stop stage).1
        ((player.stop stage).2.emit (.stopped player.id act.id (.fault .emptyGraph)))
  | begun {node taken later shown} (found : act.startId? = some node)
      (succeeds : (player.start stage).map Prod.fst = some (.ok ()))
      (drove : (player.restarted stage).Drove (player.stop stage).2 (.enter node) taken later shown) :
      Responds act player stage .start later shown
  | resumed {wait taken later shown} (playing : player.playing = true)
      (drove : (player.resumed stage wait).Drove stage wait.resume taken later shown) :
      Responds act player stage (.timer player.token) later shown

namespace Player.Responds

variable {plays : Act} {player later : Player} {stage shown : Stage σ ω} {call : Call}

theorem id (responds : player.Responds plays stage call later shown) : later.id = player.id := by
  cases responds with
  | ignored => rfl
  | stopped => exact player.stop_id stage
  | refused => exact player.stop_id stage
  | begun found succeeds drove => exact drove.id.trans (player.restarted_id stage)
  | resumed playing drove => exact drove.id.trans (player.resumed_id stage _)

theorem act (responds : player.Responds plays stage call later shown) : later.act = player.act := by
  cases responds with
  | ignored => rfl
  | stopped => exact player.stop_act stage
  | refused => exact player.stop_act stage
  | begun found succeeds drove => exact drove.act.trans (player.restarted_act stage)
  | resumed playing drove => exact drove.act.trans (player.resumed_act stage _)

end Player.Responds

theorem Chronicle.responds {id : PlayerId} {act : Act} {player later : Player}
    {log : List (Moment σ ω)} {stage shown : Stage σ ω} {call : Call}
    (chronicle : Chronicle id act player log)
    (answer : player.answer stage call = some (later, shown)) :
    player.Responds act stage call later shown := by
  cases call with
  | start =>
    obtain ⟨result, started⟩ := Player.answer_start_iff.1 answer
    rcases chronicle.start_drove started with
      ⟨absent, rfl, rfl, rfl, -⟩ | ⟨node, found, rfl, drove⟩
    · rw [← chronicle.named]
      exact .refused absent (by rw [started]; rfl)
    · exact .begun found (by rw [started]; rfl) drove
  | stop =>
    have same : player.stop stage = (later, shown) := Option.some.inj answer
    cases playing : player.playing with
    | true =>
      have responds : player.Responds act stage .stop (player.stop stage).1 (player.stop stage).2 :=
        .stopped playing
      rwa [same] at responds
    | false =>
      simp only [Player.stop, playing, Bool.false_eq_true, if_false, Prod.mk.injEq] at same
      obtain ⟨rfl, rfl⟩ := same
      exact .ignored (by simp)
  | timer token =>
    rcases chronicle.timer_drove answer with ⟨rfl, rfl, -⟩ | ⟨wait, rfl, playing, -, drove⟩
    · exact .ignored (by simp)
    · exact .resumed playing drove

namespace Career

variable {id : PlayerId} {act : Act} {player : Player} {log : List (Episode σ ω)}

theorem life (career : Career id act player log) :
    ∃ moments : List (Moment σ ω), Life id act player moments := by
  induction career with
  | load settings seeding => exact ⟨[], .load settings seeding⟩
  | call before call stage answer ih =>
    obtain ⟨moments, life⟩ := ih
    cases call with
    | start =>
      obtain ⟨result, started⟩ := Player.answer_start_iff.1 answer
      exact ⟨_, life.start stage started⟩
    | stop =>
      obtain ⟨rfl, -⟩ := Prod.mk.inj (Option.some.inj answer)
      exact ⟨_, life.stop stage⟩
    | timer token => exact ⟨_, life.timer stage token answer⟩

theorem named (career : Career id act player log) : player.id = id ∧ player.act = act := by
  obtain ⟨moments, life⟩ := career.life
  exact ⟨life.chronicle.named, life.chronicle.plays⟩

theorem responds (career : Career id act player log) {stage shown : Stage σ ω} {call : Call}
    {later : Player} (answer : player.answer stage call = some (later, shown)) :
    player.Responds act stage call later shown := by
  obtain ⟨moments, life⟩ := career.life
  exact life.chronicle.responds answer

/-- What holds between a call and those after it follows from the call itself and one later call at a
time. -/
theorem since_rule {R : Episode σ ω → List (Episode σ ω) → Player → Prop}
    (now : ∀ {player later : Player} {log : List (Episode σ ω)} {call : Call}
      {stage shown : Stage σ ω}, Career id act player log →
      player.answer stage call = some (later, shown) → R ⟨call, player, stage, later, shown⟩ [] later)
    (next : ∀ {episode : Episode σ ω} {player later : Player} {after log : List (Episode σ ω)}
      {call : Call} {stage shown : Stage σ ω}, R episode after player →
      Career id act player log → player.answer stage call = some (later, shown) →
      R episode (after ++ [⟨call, player, stage, later, shown⟩]) later)
    (career : Career id act player log) :
    ∀ earlier episode after, log = earlier ++ episode :: after → R episode after player := by
  induction career with
  | load => simp
  | call before call stage answer ih =>
    intro earlier episode after split
    rcases List.eq_nil_or_concat after with rfl | ⟨rest, last, rfl⟩
    · obtain ⟨-, same⟩ := List.append_inj' split rfl
      rw [← List.head_eq_of_cons_eq same]
      exact now before answer
    · rw [List.concat_eq_append, ← List.cons_append, ← List.append_assoc] at split
      obtain ⟨past, same⟩ := List.append_inj' split rfl
      rw [← List.head_eq_of_cons_eq same, List.concat_eq_append]
      exact next (ih _ _ _ past) before answer

end Career

end LightingDesk
