import LightingDesk.Proofs.Playback.Overflow

/-!
The budget of steps. However an act is built, a player takes no more steps at one instant of a window than
its budget allows; then it is idle, waits for at least a millisecond, or has left its next step to a later
window: `Session.Reachable.within_budget`.
-/

namespace LightingDesk

/-- How many steps a player takes at an instant. -/
def Moment.stepsAt {ω : Type} (id : PlayerId) (instant : Nat) (log : List (Moment TimerQueue ω)) : Nat :=
  log.countP fun moment => moment.player.id == id && moment.stage.clock.now == instant

/-- A player that can take no further step for now: it is idle, waits for a millisecond at least, or
has yielded after the window was opened. -/
def Player.Settled (window : Window) (player : Player) : Prop :=
  player.playing = false ∨ ∃ wait, player.waiting = some wait ∧
    (wait.yielded = false ∧ Span.perMillisecond ≤ wait.delay ∨
      wait.yielded = true ∧ window.barrier ≤ wait.handle)

section Runs

variable {σ ω : Type} [Scheduler σ] [Output ω]

theorem Player.length_driveMoments_le (player : Player) (stage : Stage σ ω) (first : Step)
    (fresh : Bool) : (player.driveMoments stage first fresh).length ≤ player.settings.budget := by
  obtain ⟨burstAt, burstSteps, same⟩ := player.burst_eq stage fresh
  refine (Player.length_runMoments_le _ _ _ _).trans ?_
  rw [same]
  exact Nat.sub_le _ _

/-- The steps of a run are those that its player counts. -/
theorem Player.drive_steps {player later : Player} {stage shown : Stage σ ω} {first : Step}
    {fresh : Bool} (free : player.waiting = none)
    (answer : player.drive stage first fresh = some (later, shown)) :
    later.steps = player.steps + (player.driveMoments stage first fresh).length := by
  have begins : (player.burst stage fresh).waiting = none ∧
      (player.burst stage fresh).steps = player.steps + ([] : List (Moment σ ω)).length := by
    obtain ⟨burstAt, burstSteps, same⟩ := player.burst_eq stage fresh
    rw [same]
    exact ⟨free, rfl⟩
  have counts {last : Player} {taken : List (Moment σ ω)} {moment : Moment σ ω}
      (before : last.steps = player.steps + taken.length) :
      last.counted.steps = player.steps + (taken ++ [moment]).length := by
    rw [List.length_append, ← Nat.add_assoc, ← before]
    rfl
  have ran : run _ (player.burst stage fresh) stage first = some (later, shown) := answer
  refine run_rule (P := fun taken last _ _ =>
      last.waiting = none ∧ last.steps = player.steps + taken.length)
    (Q := fun taken later _ => later.steps = player.steps + taken.length)
    ?goes ?rests ?yields begins ran
  case goes =>
    rintro taken last stage step later stage' next ⟨free, before⟩ executed
    have turned : last.counted.Turned stage step _ := execute_turned free executed
    cases turned with
    | goesOn advances continues free => exact ⟨free, continues.steps.trans (counts before)⟩
  case rests =>
    rintro taken last stage step later stage' ⟨free, before⟩ executed
    have turned : last.counted.Turned stage step _ := execute_turned free executed
    cases turned with
    | stopped | stuck => exact counts before
    | waits advances continues => exact continues.steps.trans (counts before)
  case yields =>
    rintro taken last stage step later stage' ⟨free, before⟩ yielded
    obtain ⟨handle, clock, -, rfl, -⟩ := armYield_eq_some free yielded
    exact before

end Runs

namespace Moment

variable {ω : Type} {id : PlayerId} {instant : Nat} {log new : List (Moment TimerQueue ω)}

theorem stepsAt_append : stepsAt id instant (log ++ new) = stepsAt id instant log +
    stepsAt id instant new := List.countP_append

theorem stepsAt_eq_zero (none : ∀ moment ∈ log, moment.player.id = id →
    moment.stage.clock.now ≠ instant) : stepsAt id instant log = 0 := by
  refine List.countP_eq_zero.2 fun moment member => ?_
  simpa using none moment member

theorem stepsAt_le : stepsAt id instant log ≤ log.length := List.countP_le_length

end Moment

/-- What the steps of a player in a window so far have left of its budget. -/
structure Player.Spends {ω : Type} (player : Player) (window : Window)
    (log : List (Moment TimerQueue ω)) : Prop where
  /-- A wait from before the window has not been resumed. -/
  early : ∀ wait, player.waiting = some wait → wait.handle < window.barrier →
    ∀ moment ∈ log, moment.player.id ≠ player.id
  past : ∀ moment ∈ log, moment.player.id = player.id →
    moment.stage.clock.now ≤ player.burstAt
  now : Moment.stepsAt player.id player.burstAt log ≤ player.burstSteps
  ever : ∀ instant, Moment.stepsAt player.id instant log ≤ player.settings.budget

namespace Player.Spends

variable {ω : Type} {player : Player} {window : Window} {log new : List (Moment TimerQueue ω)}

theorem nil (player : Player) (window : Window) :
    player.Spends window ([] : List (Moment TimerQueue ω)) :=
  ⟨by simp, by simp, Nat.zero_le _, fun _ => Nat.zero_le _⟩

theorem append (spends : player.Spends window log)
    (foreign : ∀ moment ∈ new, moment.player.id ≠ player.id) : player.Spends window (log ++ new) := by
  have same (instant : Nat) :
      Moment.stepsAt player.id instant (log ++ new) = Moment.stepsAt player.id instant log := by
    have none : Moment.stepsAt player.id instant new = 0 :=
      Moment.stepsAt_eq_zero fun moment member own => absurd own (foreign moment member)
    rw [Moment.stepsAt_append, none, Nat.add_zero]
  refine ⟨?_, ?_, ?_, ?_⟩
  · intro wait waiting early moment member
    rcases List.mem_append.1 member with before | now
    · exact spends.early wait waiting early moment before
    · exact foreign moment now
  · intro moment member own
    rcases List.mem_append.1 member with before | now
    · exact spends.past moment before own
    · exact absurd own (foreign moment now)
  · rw [same]
    exact spends.now
  · intro instant
    rw [same]
    exact spends.ever instant

end Player.Spends

namespace Session

variable {ω : Type} [Output ω] {window : Window} {session reached : Session ω} {timer : Timer}
  {clock : TimerQueue} {player later : Player} {wait : Wait} {log : List (Moment TimerQueue ω)}

/-- Where a run of a window begins, the steps that its player took before at this instant are on its
counter. -/
theorem Beat.spent (beat : Beat window session timer clock player wait later reached)
    (paced : player.Paced session.stage.clock) (spends : player.Spends window log) :
    Moment.stepsAt player.id clock.now log ≤
      (player.resumed (session.popped clock).stage wait).burstSteps := by
  rw [Player.resumed, Player.burst_burstSteps]
  split
  next again =>
    rw [show clock.now = player.burstAt from again.2]
    exact spends.now
  next anew =>
    refine (Moment.stepsAt_eq_zero fun moment member own => ?_).le
    by_cases plain : wait.yielded = false
    · have past := spends.past moment member own
      have before : player.burstAt ≤ clock.now := by
        rw [beat.takes.now]
        exact paced.past.trans (le_max_left _ _)
      have different : clock.now ≠ player.burstAt := fun again => anew ⟨plain, again⟩
      omega
    · -- a yield of an earlier window begins a budget of its own
      have early : wait.handle < window.barrier := by
        have isDue := beat.takes.isDue
        rw [beat.timed] at isDue
        exact isDue.early (by simpa [Player.timer] using plain)
      exact absurd own (spends.early wait beat.waiting early moment member)

theorem Beat.spends (beat : Beat window session timer clock player wait later reached)
    (paced : player.Paced session.stage.clock)
    (barrier : window.barrier ≤ session.stage.clock.nextHandle)
    (spends : player.Spends window log) :
    later.Spends window (log ++ (session.popped clock).deliverMoments timer.token) := by
  have spent := beat.spent paced spends
  have owns : ∀ moment ∈ (session.popped clock).deliverMoments timer.token,
      moment.stage.clock.now = clock.now := fun moment member =>
    congrArg TimerQueue.now (beat.drove.meets moment member).2
  have burstAt : later.burstAt = clock.now :=
    beat.drove.burstAt.trans (Player.burst_burstAt _ _ _)
  have counted : Moment.stepsAt player.id clock.now
      (log ++ (session.popped clock).deliverMoments timer.token) ≤ later.burstSteps := by
    rw [Moment.stepsAt_append, beat.drove.burstSteps]
    exact Nat.add_le_add spent Moment.stepsAt_le
  have room : later.burstSteps ≤ later.settings.budget := by
    rw [beat.drove.settings]
    exact beat.drove.within.trans (max_le le_rfl (paced.resumed_within _ wait))
  refine ⟨?_, ?_, ?_, ?_⟩
  · intro next waiting early
    rcases beat.drove.arms with ⟨-, free, -⟩ | ⟨other, -, same, arms, -⟩
    · simp [free] at waiting
    · obtain rfl := Option.some.inj (waiting.symm.trans same)
      have handle : next.handle = session.stage.clock.nextHandle :=
        arms.handle.trans beat.takes.nextHandle
      exact absurd early (Nat.not_lt.2 (handle ▸ barrier))
  · intro moment member own
    rw [burstAt]
    rcases List.mem_append.1 member with before | now
    · refine (spends.past moment before (own.trans beat.later_id)).trans ?_
      rw [beat.takes.now]
      exact paced.past.trans (le_max_left _ _)
    · exact (owns moment now).le
  · rw [beat.later_id, burstAt]
    exact counted
  · intro instant
    rw [beat.later_id]
    by_cases now : instant = clock.now
    · rw [now]
      exact counted.trans room
    · rw [Moment.stepsAt_append, Moment.stepsAt_eq_zero fun moment member _ same =>
        now (same.symm.trans (owns moment member)), Nat.add_zero, beat.drove.settings,
        player.resumed_settings]
      exact spends.ever instant

variable {middle : Session ω} {deliveries : List (Delivery ω)}

/-- Throughout a window, every player keeps within its budget. -/
theorem Timely.fires_spends (timely : Timely session log)
    (opened : window.barrier = session.stage.clock.nextHandle)
    (fires : Fires window session deliveries middle) :
    (∀ player ∈ middle.players, player.Spends window (deliveries.flatMap Delivery.moments)) ∧
    ∀ moment ∈ deliveries.flatMap Delivery.moments,
      ∃ player ∈ middle.players, player.id = moment.player.id := by
  refine (fires.rule
    (I := fun deliveries middle => window.barrier ≤ middle.stage.clock.nextHandle ∧
      (∀ player ∈ middle.players, player.Spends window (deliveries.flatMap Delivery.moments)) ∧
      ∀ moment ∈ deliveries.flatMap Delivery.moments,
        ∃ player ∈ middle.players, player.id = moment.player.id)
    timely ⟨opened.le, fun player _ => .nil player window, by simp⟩ ?_).2.2
  rintro deliveries middle timer clock player wait later reached log ⟨barrier, spends, owned⟩ timely
    beat
  have listed := mem_of_player? beat.found
  have meets : ∀ moment ∈ (middle.popped clock).deliverMoments timer.token,
      moment.player.id = player.id := fun moment member =>
    (beat.drove.meets moment member).1.trans (player.resumed_id _ wait)
  have moments : (deliveries ++ [Delivery.mk timer (middle.popped clock)]).flatMap Delivery.moments =
      deliveries.flatMap Delivery.moments ++ (middle.popped clock).deliverMoments timer.token := by
    rw [List.flatMap_append, List.flatMap_singleton]
    rfl
  rw [moments]
  refine ⟨barrier.trans beat.nextHandle_le, ?_, ?_⟩
  · intro other member
    rw [beat.replaced] at member
    rcases mem_replace member with rfl | ⟨present, different⟩
    · exact beat.spends (timely.paced player listed) barrier (spends player listed)
    · refine (spends other present).append fun moment now => ?_
      rw [meets moment now, ← beat.later_id]
      exact different.symm
  · intro moment member
    have ids : reached.players.map Player.id = middle.players.map Player.id := by
      rw [beat.replaced]
      exact ids_replace _ _ _
    have known : moment.player.id ∈ middle.players.map Player.id := by
      rcases List.mem_append.1 member with before | now
      · obtain ⟨owner, present, same⟩ := owned moment before
        exact List.mem_map.2 ⟨owner, present, same⟩
      · exact List.mem_map.2 ⟨player, listed, (meets moment now).symm⟩
    exact List.mem_map.1 (ids ▸ known)

/-- When an instant is over, the players that took steps at it can take no more. -/
theorem Timely.settled (timely : Timely middle log) {past : List (Moment TimerQueue ω)}
    (within : middle.now ≤ window.limit)
    (passes : ∀ timer clock, middle.stage.clock.take? window = some (timer, clock) →
      middle.now < clock.now)
    (listed : player ∈ middle.players) (spends : player.Spends window past)
    (stepped : ∃ moment ∈ past, moment.player.id = player.id ∧
      moment.stage.clock.now = middle.now) : player.Settled window := by
  obtain ⟨moment, member, own, now⟩ := stepped
  cases playing : player.playing with
  | false => exact .inl playing
  | true =>
    obtain ⟨wait, timer, waiting, -⟩ := (timely.loaded player listed).waits playing
    have minds := (timely.paced player listed).minds wait waiting
    refine .inr ⟨wait, waiting, ?_⟩
    cases yielded : wait.yielded with
    | true =>
      refine .inr ⟨rfl, Nat.le_of_not_lt fun early => ?_⟩
      exact spends.early wait waiting early moment member own
    | false =>
      have long := Player.perMillisecond_dvd (minds.delayed yielded)
      refine .inl ⟨rfl, Nat.le_of_dvd (Nat.pos_of_ne_zero fun instant => ?_) long⟩
      -- the timer of a wait without delay would still be due
      have deadline : (player.timer wait).deadline = middle.now := by
        have past := spends.past moment member own
        rw [now] at past
        rw [Player.timer, instant, minds.armedAt]
        exact le_antisymm (timely.paced player listed).past past
      have isDue : (player.timer wait).IsDue window := .of_plain yielded (deadline ▸ within)
      cases taken : middle.stage.clock.take? window with
      | none => exact timely.ordered.exhausted taken _ minds.armed isDue
      | some next =>
        obtain ⟨first, clock⟩ := next
        have takes := timely.ordered.takes taken
        have sooner : first.deadline ≤ middle.now := by
          rw [← deadline]
          rcases List.mem_cons.1 (takes.perm.mem_iff.1 minds.armed) with same | later
          · rw [same]
          · exact (takes.least _ later isDue).deadline_le
        have moved := passes first clock taken
        rw [takes.now] at moved
        exact Nat.lt_irrefl _ (moved.trans_le (max_le le_rfl sooner))

theorem Timely.startMoments_le (timely : Timely session log) (id : PlayerId) :
    (session.startMoments id).length ≤ session.settings.budget := by
  unfold Session.startMoments
  split
  next => exact Nat.zero_le _
  next player found =>
    have budget := timely.budgeted player (mem_of_player? found)
    unfold Player.startMoments
    dsimp only
    split
    next => exact Nat.zero_le _
    next =>
      refine (Player.length_driveMoments_le _ _ _ _).trans (Eq.le ?_)
      rw [← budget]
      exact congrArg EngineSettings.budget (player.stop_settings session.stage)

/-- What is promised of a window at any point: `middle` is the session after some deliveries. -/
structure Bounds (window : Window) (session : Session ω) (deliveries : List (Delivery ω))
    (middle : Session ω) : Prop where
  finite : deliveries.length < session.deliveryBound window.limit
  steps : ∀ id instant, Moment.stepsAt id instant (deliveries.flatMap Delivery.moments) ≤
    session.settings.budget
  /-- When the clock is about to move on, or nothing is due any more, no player that has taken a step
  at this instant could take another one. -/
  settled : (∀ timer clock, middle.stage.clock.take? window = some (timer, clock) →
      middle.now < clock.now) →
    ∀ player ∈ middle.players, (∃ moment ∈ deliveries.flatMap Delivery.moments,
      moment.player.id = player.id ∧ moment.stage.clock.now = middle.now) → player.Settled window

theorem Timely.bounds (timely : Timely session log)
    (opened : window.barrier = session.stage.clock.nextHandle) (within : session.now ≤ window.limit)
    (fires : Fires window session deliveries middle) : Bounds window session deliveries middle := by
  obtain ⟨later, settings, near⟩ := fires.timely timely within
  obtain ⟨spends, owned⟩ := timely.fires_spends opened fires
  refine ⟨timely.fires_length opened fires, ?_, ?_⟩
  · intro id instant
    by_cases stepped : ∃ moment ∈ deliveries.flatMap Delivery.moments, moment.player.id = id
    · obtain ⟨moment, member, rfl⟩ := stepped
      obtain ⟨player, listed, same⟩ := owned moment member
      rw [← same, ← settings, ← later.budgeted player listed]
      exact (spends player listed).ever instant
    · rw [Moment.stepsAt_eq_zero fun moment member own => absurd ⟨moment, member, own⟩ stepped]
      exact Nat.zero_le _
  · intro passes player listed stepped
    exact later.settled near passes listed (spends player listed) stepped

/-- However acts are built, playing ends in finitely many steps. A run of steps and a start take no more
than the budget. In a window, the deliveries are bounded, and no player takes more than its budget at
one instant; when the instant is over, those who took steps at it are idle, wait for a millisecond or
more, or have yielded to a later window. The loop of a window ends when nothing is due any more, and it
has an answer unless a delay of an act would end after the last instant of the clock. -/
theorem Reachable.within_budget (reachable : session.Reachable) :
    (∀ player ∈ session.players, player.settings.budget = session.settings.budget) ∧
    (∀ (player : Player) (stage : Stage TimerQueue ω) (first : Step) (fresh : Bool),
      (player.driveMoments stage first fresh).length ≤ player.settings.budget ∧
      (player.waiting = none → ∀ later shown,
        player.drive stage first fresh = some (later, shown) →
          later.steps = player.steps + (player.driveMoments stage first fresh).length)) ∧
    (∀ id, (session.startMoments id).length ≤ session.settings.budget ∧
      (session.now ≤ Span.longest → (∀ player ∈ session.players, ¬player.act.Overruns session.now) →
        (session.start id).isSome = true)) ∧
    ∀ {request : Request ω} {target : Nat}, session.until? request = some target →
      (∀ deliveries middle, Fires (session.stage.clock.windowTo target) session deliveries middle →
        Bounds (session.stage.clock.windowTo target) session deliveries middle) ∧
      (∀ later, session.perform request = some later → ∃ deliveries last,
        Fires (session.stage.clock.windowTo target) session deliveries last ∧
        last.stage.clock.take? (session.stage.clock.windowTo target) = none ∧
        later = last.closed (session.stage.clock.windowTo target) ∧
        session.moments request = deliveries.flatMap Delivery.moments) ∧
      (max target session.now ≤ Span.longest →
        (∀ player ∈ session.players, ¬player.act.Overruns (max target session.now)) →
          (session.perform request).isSome = true) := by
  obtain ⟨log, run⟩ := reachable
  have timely := run.timely
  refine ⟨timely.budgeted, ?_, ?_, ?_⟩
  · intro player stage first fresh
    exact ⟨player.length_driveMoments_le stage first fresh,
      fun free later shown answer => Player.drive_steps free answer⟩
  · exact fun id => ⟨timely.startMoments_le id, timely.start_isSome id⟩
  · intro request target asked
    refine ⟨?_, ?_, ?_⟩
    · intro deliveries middle fires
      exact timely.bounds rfl (le_max_right _ _) fires
    · intro later answer
      obtain ⟨fired, moments⟩ := fireWindow_of_until? asked answer
      obtain ⟨deliveries, last, fires, exhausted, closed, all⟩ := timely.fired rfl fired
      exact ⟨deliveries, last, fires, exhausted, closed, moments.trans all⟩
    · intro early room
      rw [perform_of_until? asked ((le_max_left _ _).trans early)]
      exact timely.fireWindow_isSome (le_max_right _ _) early room

end Session

/-- A wait of no time that leads back to itself. -/
def Act.cycle : Act :=
  { Act.empty ⟨"act"⟩ "cycle" .epoch with
    nodes := [⟨⟨"wait"⟩, "wait", .wait ⟨0⟩, .origin⟩]
    connections := [⟨⟨"edge"⟩, ⟨"wait"⟩, ⟨"wait"⟩, .default, none, none⟩] }

/-- Played with the least budget, it lets a window end, and leaves a step to a later one. -/
theorem Session.within_budget_cycle :
    ∃ session later : Session Universe, session.Reachable ∧ session.settings.budget = 1 ∧
      session.perform (.advance (Span.ofMilliseconds 10)) = some later ∧
      ∃ deliveries last,
        Fires (session.stage.clock.windowTo (Span.ofMilliseconds 10)) session deliveries last ∧
        Bounds (session.stage.clock.windowTo (Span.ofMilliseconds 10)) session deliveries last ∧
        later.stage.clock.pending = [⟨0, 1, ⟨⟨1⟩, 1⟩, true⟩] := by
  have course : ((bare 0).perform (.play .cycle)).map
      (fun session => (session.settings.budget, session.now,
        (session.perform (.advance (Span.ofMilliseconds 10))).map
          fun later => later.stage.clock.pending)) =
      some (1, 0, some [⟨0, 1, ⟨⟨1⟩, 1⟩, true⟩]) := by decide
  have acts : ((bare 0).perform (.play .cycle)).map
      (fun session => session.players.map Player.act) = some [.cycle] := by rfl
  obtain ⟨session, played, stands⟩ := Option.map_eq_some_iff.1 course
  simp only [Prod.mk.injEq] at stands
  obtain ⟨budget, now, ends⟩ := stands
  have asked : session.until? (.advance (Span.ofMilliseconds 10)) =
      some (Span.ofMilliseconds 10) := by
    rw [until?, now, Nat.zero_add]
  have reachable : session.Reachable := ⟨_, .perform (.bare 0) _ played⟩
  obtain ⟨bounds, closes, answers⟩ := reachable.within_budget.2.2.2 asked
  have room : ∀ player ∈ session.players,
      ¬player.act.Overruns (max (Span.ofMilliseconds 10) session.now) := by
    rw [played] at acts
    intro player listed
    have plays : player.act ∈ [Act.cycle] := Option.some.inj acts ▸ List.mem_map_of_mem listed
    rw [List.mem_singleton.1 plays, now]
    rintro ⟨id, delay, asks, beyond⟩
    obtain ⟨node, found, waits⟩ := Option.bind_eq_some_iff.1 asks
    obtain rfl := List.mem_singleton.1 (List.mem_of_find?_eq_some found)
    obtain rfl := Option.some.inj waits
    exact absurd beyond (by decide)
  have early : max (Span.ofMilliseconds 10) session.now ≤ Span.longest := by
    rw [now]
    decide
  obtain ⟨later, answer⟩ := Option.isSome_iff_exists.1 (answers early room)
  rw [answer, Option.map_some, Option.some.injEq] at ends
  obtain ⟨deliveries, last, fires, -⟩ := closes later answer
  exact ⟨session, later, reachable, budget, answer, deliveries, last, fires,
    bounds deliveries last fires, ends⟩

end LightingDesk
