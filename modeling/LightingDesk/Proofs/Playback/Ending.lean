import LightingDesk.Proofs.Playback.Career
import LightingDesk.Proofs.Playback.Lives
import LightingDesk.Proofs.Playback.Overflow
import LightingDesk.Proofs.Playback.Toll

/-!
Playbacks that come to an end. In an act without cycles whose trackers play once, the number of steps of
a playback has a bound that depends on nothing but the act, and so has the number of timers for which it
waits: `Act.IsFinite.terminates`.
-/

namespace LightingDesk

/-- The most steps that a playback of the act takes. -/
def Act.stepBound (act : Act) : Nat :=
  (act.distinctIds.length + 1) * act.tour act.distinctIds.length

variable {σ ω : Type} [Scheduler σ] [Output ω] {act : Act} {token : Token} {id : PlayerId}
  {past log : List (Moment σ ω)} {player later : Player}

theorem Act.toll_start_le (act : Act) (id : NodeId) (generator : Generator) :
    Cursor.toll act ⟨[], .empty, generator, .enter id⟩ ≤ act.stepBound := by
  have ahead := Nat.mul_le_mul_right (act.tour act.distinctIds.length) (act.ahead_le id)
  simp only [Cursor.toll, Cursor.dues, Cursor.root?, Step.entering, owed, spare, stepBound,
    List.length_nil, Nat.sub_zero, List.append_nil, List.getLast?_singleton, Option.elim_some]
  rw [Nat.succ_mul]
  omega

/-- The steps that have been taken and those that are left. -/
theorem Playback.length_add_toll_le {due : Option Cursor} (finite : act.IsFinite)
    (playback : Playback act token past due) :
    past.length + due.elim 0 (Cursor.toll act) ≤ act.stepBound := by
  induction playback with
  | start found generator => simpa using act.toll_start_le _ generator
  | @take past moment before plays named playing free answered ih =>
    have live : moment.Live := ⟨playing, free, answered, plays ▸ before.fits⟩
    have lowers : moment.due?.elim 0 (Cursor.toll act) < moment.cursor.toll act := by
      rcases live.cases with ⟨due, leads, next, -⟩ | ⟨reason, none, -⟩
      · rw [leads]
        rw [plays] at next
        exact next.toll_lt finite before.arises
      · rw [none]
        exact Nat.add_pos_left before.fits.dues_pos _
    simp only [Option.elim_some] at ih
    rw [List.length_append, List.length_singleton]
    omega

/-! ### Deliveries -/

/-- The player when its own timers have been delivered, one on each of the stages, and all that it has
reported. -/
def Player.serve (player : Player) : List (Stage σ ω) → Option (Player × List Event)
  | [] => some (player, [])
  | stage :: rest =>
      (player.onTimer stage player.token).bind fun (later, shown) =>
        (later.serve rest).map fun (last, events) => (last, shown.since stage ++ events)

/-- Deliveries to an idle player have no effect. -/
theorem Player.serve_of_idle {last : Player} {stages : List (Stage σ ω)} {events : List Event}
    (idle : player.playing = false) (served : player.serve stages = some (last, events)) :
    last = player := by
  induction stages generalizing events with
  | nil => exact (Prod.mk.inj (Option.some.inj served)).1.symm
  | cons stage rest ih =>
    have ignored : player.onTimer stage player.token = some (player, stage) := by
      simp [onTimer, idle]
    rw [serve, ignored, Option.bind_some, Option.map_eq_some_iff] at served
    obtain ⟨⟨reached, others⟩, again, same⟩ := served
    obtain rfl := (Prod.mk.inj same).1
    exact ih again

section Deliveries

variable {stage shown : Stage σ ω} {wait next : Wait}

theorem Life.timerMoments_token (life : Life id act player log) (playing : player.playing = true)
    (waiting : player.waiting = some wait) :
    ∀ moment ∈ player.timerMoments stage player.token, moment.player.token = player.token := by
  have moments : player.timerMoments stage player.token =
      { player with waiting := none }.driveMoments stage wait.resume wait.yielded := by
    simp [Player.timerMoments, playing, waiting]
  rw [moments]
  intro moment member
  obtain ⟨before, underway⟩ := (life.chronicle.resumes playing waiting).moments moment member
  exact underway.named

/-- A delivery that brings about no step finds the budget spent, and a yield finds it anew. -/
theorem Life.delivery_steps (life : Life id act player log) (playing : player.playing = true)
    (waiting : player.waiting = some wait)
    (answer : player.onTimer stage player.token = some (later, shown))
    (still : later.waiting = some next) :
    wait.yielded.toNat < 2 * (player.timerMoments stage player.token).length + next.yielded.toNat := by
  have drove := life.chronicle.resumed_drove playing waiting answer
  have stepped (any : player.timerMoments stage player.token ≠ []) :
      wait.yielded.toNat < 2 * (player.timerMoments stage player.token).length + next.yielded.toNat := by
    have yields := wait.yielded.toNat_le
    have positive := List.length_pos_iff.2 any
    omega
  by_cases any : player.timerMoments stage player.token = []
  · obtain ⟨events, -, ends | ⟨other, pauses⟩⟩ := drove.outcome
    · exact absurd any ends.stepped
    · obtain rfl := Option.some.inj (still.symm.trans pauses.waiting)
      have spent : next.yielded = true := by
        by_contra plain
        exact (pauses.delayed (by simpa using plain)).1 any
      cases yielded : wait.yielded with
      | false => simp [spent]
      | true =>
        have fresh : (player.resumed stage wait).burstSteps = 0 := by
          simp [Player.resumed, Player.burst, yielded]
        refine absurd any (drove.stepped ?_)
        rw [fresh]
        exact Nat.lt_of_lt_of_le Nat.zero_lt_one (Nat.le_max_right _ _)
  · exact stepped any

/-- At most every other delivery brings about no step, and steps are bounded. -/
theorem Life.serve_ends {last : Player} {stages : List (Stage σ ω)} {events : List Event}
    (finite : act.IsFinite) (life : Life id act player log) (playing : player.playing = true)
    (waiting : player.waiting = some wait)
    (many : 2 * act.stepBound ≤
      2 * (Moment.playback player.token log).length + wait.yielded.toNat + stages.length)
    (served : player.serve stages = some (last, events)) :
    last.playing = false ∧ ∃ reason, reason.IsNatural ∧ .stopped id act.id reason ∈ events := by
  induction stages generalizing player log wait events with
  | nil =>
    -- the step that is due would exceed the bound
    obtain ⟨due, found, playback⟩ := life.chronicle.waits playing
    have within := playback.length_add_toll_le finite
    have left : 0 < (player.cursor due.resume).toll act := Nat.add_pos_left playback.fits.dues_pos _
    have yields := wait.yielded.toNat_le
    simp only [Option.elim_some] at within
    simp only [List.length_nil] at many
    omega
  | cons stage rest ih =>
    obtain ⟨⟨later, shown⟩, answer, continued⟩ := Option.bind_eq_some_iff.1 served
    obtain ⟨⟨reached, others⟩, again, same⟩ := Option.map_eq_some_iff.1 continued
    obtain ⟨rfl, rfl⟩ := Prod.mk.inj same
    have drove := life.chronicle.resumed_drove playing waiting answer
    obtain ⟨told, -, ends | ⟨next, pauses⟩⟩ := drove.outcome
    · rw [Player.serve_of_idle ends.idle again]
      obtain ⟨reason, natural, tells⟩ := ends.told
      rw [player.resumed_id, player.resumed_act, life.chronicle.named, life.chronicle.plays] at tells
      refine ⟨ends.idle, reason, natural, List.mem_append_left _ ?_⟩
      rw [tells.since_eq]
      exact List.mem_append_right _ (List.mem_singleton_self _)
    · have token : later.token = player.token := by
        rw [Player.token, Player.token, drove.id, pauses.generation, player.resumed_id,
          player.resumed_generation]
      have steps := life.delivery_steps playing waiting answer pauses.waiting
      obtain ⟨idle, reason, natural, member⟩ :=
        ih (life.timer stage player.token answer) pauses.playing pauses.waiting (by
          rw [token, Moment.playback_append_self (life.timerMoments_token playing waiting),
            List.length_append]
          rw [List.length_cons] at many
          omega) again
      exact ⟨idle, reason, natural, List.mem_append_right _ member⟩

end Deliveries

/-- Timers have an effect as long as no delay ends after the last instant of the clock. -/
theorem Life.serve_isSome {ω : Type} [Output ω] {player : Player} {log : List (Moment TimerQueue ω)}
    {stages : List (Stage TimerQueue ω)} (life : Life id act player log)
    (timely : ∀ stage ∈ stages, stage.now ≤ Span.longest ∧ ¬act.Overruns stage.now) :
    (player.serve stages).isSome = true := by
  induction stages generalizing player log with
  | nil => rfl
  | cons stage rest ih =>
    obtain ⟨⟨early, room⟩, others⟩ := List.forall_mem_cons.1 timely
    cases answer : player.onTimer stage player.token with
    | none => exact absurd (life.chronicle.timer_eq_none early answer) room
    | some turned =>
      have after := life.timer stage player.token answer
      rw [Player.serve, answer, Option.bind_some, Option.isSome_map]
      exact ih after others

/-- In an act without cycles whose trackers play once, and whose connections have ids of their own, a
playback takes no more steps than a bound of the act, whatever the clock, the stages and the calls on its
player are. A player that is not stopped ends its playback by itself when twice as many of its timers have
been delivered, whatever happens on the stage in between; and they can be delivered, unless a delay of the
act would end after the last instant of the clock. -/
theorem Act.IsFinite.terminates (finite : act.IsFinite) :
    (∀ {σ ω : Type} [Scheduler σ] [Output ω] {id : PlayerId} {player : Player}
      {log : List (Moment σ ω)}, Life id act player log →
        ∀ token, (Moment.playback token log).length ≤ act.stepBound) ∧
    (∀ {ω : Type} [Output ω] {session : Session ω} {log : List (Moment TimerQueue ω)},
      session.Run log → ∀ token, (∀ moment ∈ Moment.playback token log, moment.player.act = act) →
        (Moment.playback token log).length ≤ act.stepBound) ∧
    (∀ {σ ω : Type} [Scheduler σ] [Output ω] {id : PlayerId} {player last : Player}
      {log : List (Episode σ ω)} {stages : List (Stage σ ω)} {events : List Event},
      Career id act player log → player.playing = true → 2 * act.stepBound ≤ stages.length →
        player.serve stages = some (last, events) →
          last.playing = false ∧ ∃ reason, reason.IsNatural ∧ .stopped id act.id reason ∈ events) ∧
    ∀ {ω : Type} [Output ω] {id : PlayerId} {player : Player} {log : List (Episode TimerQueue ω)}
      {stages : List (Stage TimerQueue ω)}, Career id act player log →
        (∀ stage ∈ stages, stage.now ≤ Span.longest ∧ ¬act.Overruns stage.now) →
          (player.serve stages).isSome = true := by
  refine ⟨?_, ?_, ?_, ?_⟩
  · intro σ ω _ _ id player log life token
    rcases life.chronicle.playbacks token with none | ⟨due, playback⟩
    · simp [none]
    · exact (Nat.le_add_right _ _).trans (playback.length_add_toll_le finite)
  · intro ω _ session log run token plays
    rcases run.playback token with none | ⟨other, due, playback⟩
    · simp [none]
    · cases moments : Moment.playback token log with
      | nil => exact Nat.zero_le _
      | cons first rest =>
        have listed : first ∈ Moment.playback token log := moments ▸ List.mem_cons_self
        obtain rfl : other = act := (playback.live listed).2.1.symm.trans (plays first listed)
        rw [← moments]
        exact (Nat.le_add_right _ _).trans (playback.length_add_toll_le finite)
  · intro σ ω _ _ id player last log stages events career playing many served
    obtain ⟨moments, life⟩ := career.life
    obtain ⟨wait, waiting, -⟩ := life.chronicle.waits playing
    exact life.serve_ends finite playing waiting (many.trans (Nat.le_add_left _ _)) served
  · intro ω _ id player log stages career timely
    obtain ⟨moments, life⟩ := career.life
    exact life.serve_isSome timely

/-- A tracker that plays once and has itself among its children, and a child that waits. -/
def Act.encore : Act :=
  { Act.empty ⟨"act"⟩ "encore" .epoch with
    nodes :=
      [⟨⟨"outer"⟩, "outer", .tracker ((TrackerPayload.ofChildren [⟨"inner"⟩, ⟨"outer"⟩]).withMode .once),
        .origin⟩,
      ⟨⟨"inner"⟩, "inner", .wait ⟨5⟩, .origin⟩] }

theorem Act.isFinite_encore : Act.encore.IsFinite where
  distinct := by decide
  acyclic := by
    have silent : Act.encore.review = [] := by cbv
    simp [silent]
  once := by
    intro node member payload kind
    have listed : node ∈ [_, _] := member
    rcases List.mem_pair.1 listed with rfl | rfl
    · obtain rfl := NodeKind.tracker.inj kind
      rfl
    · cases kind

theorem Act.terminates_encore :
    ∃ player last : Player, ∃ log : List (Episode TimerQueue Universe), ∃ stages events,
      Career ⟨1⟩ .encore player log ∧ player.playing = true ∧
      player.serve (stages : List (Stage TimerQueue Universe)) = some (last, events) ∧
      stages.length = 2 * Act.encore.stepBound ∧ last.playing = false ∧
      ∃ reason, reason.IsNatural ∧ .stopped ⟨1⟩ ⟨"act"⟩ reason ∈ events := by
  let stage : Stage TimerQueue Universe := .ofParts .empty (.empty 1) .empty .standard
  have started : ((Player.load ⟨1⟩ .encore ⟨3, none, 8⟩ (.splitmix 0)).answer stage .start).map
      (fun answer => answer.1.playing) = some true := by decide
  obtain ⟨⟨player, shown⟩, answer, playing⟩ := Option.map_eq_some_iff.1 started
  have career := Career.call (.load ⟨3, none, 8⟩ (.splitmix 0)) .start stage answer
  obtain ⟨-, -, ends, answers⟩ := Act.isFinite_encore.terminates
  have timely : ∀ other ∈ List.replicate (2 * Act.encore.stepBound) stage,
      other.now ≤ Span.longest ∧ ¬Act.encore.Overruns other.now := by
    intro other member
    rw [List.eq_of_mem_replicate member, show stage.now = 0 from rfl]
    exact ⟨Nat.zero_le _, Act.not_overruns (by decide)⟩
  obtain ⟨⟨last, events⟩, served⟩ := Option.isSome_iff_exists.1 (answers career timely)
  obtain ⟨idle, stopped⟩ := ends career playing (by simp) served
  exact ⟨player, last, _, _, events, career, playing, served, by simp, idle, stopped⟩

end LightingDesk
