import LightingDesk.Proofs.Playback.Deliveries
import LightingDesk.Proofs.Playback.Walk

/-!
Time that passes without yields. A window then takes the head of the queue, whenever it was opened:
`Session.Flows` tells how time passes up to an instant, and can be cut at any earlier one
(`Flows.split`). So a host may let time pass in steps of any size, which is the main result,
`Session.Reachable.slices_eq_advanceTo`.
-/

namespace LightingDesk

namespace TimerQueue

/-- The queue when its first timer has been taken and `others` are left. -/
def past (queue : TimerQueue) (first : Timer) (others : List Timer) : TimerQueue :=
  { queue with now := max queue.now first.deadline, pending := others }

variable {queue : TimerQueue} {window : Window} {first : Timer} {others : List Timer}

theorem take?_of_quiet (quiet : ∀ deadline, queue.nextDeadline? = some deadline →
    window.limit < deadline) : queue.take? window = none := by
  rw [take?, Option.map_eq_none_iff]
  cases pending : queue.pending with
  | nil => rfl
  | cons first rest =>
    rw [takeDue, if_pos (quiet _ (by rw [nextDeadline?, pending]; rfl))]

/-- A yield apart, the first timer is taken if any is due. -/
theorem take?_of_plain (window : Window) (pending : queue.pending = first :: others)
    (plain : first.yielded = false) (due : first.deadline ≤ window.limit) :
    queue.take? window = some (first, queue.past first others) := by
  rw [take?, pending, takeDue, if_neg (Nat.not_lt.2 due), if_pos (by simp [Timer.mayFire, plain]),
    Option.map_some, past]

end TimerQueue

namespace Session

variable {ω : Type}

/-- The clock has moved on to an instant and nothing else has happened. -/
def rested (session : Session ω) (limit : Nat) : Session ω :=
  session.popped { session.stage.clock with now := max session.stage.clock.now limit }

/-- No timer is due by an instant. -/
def QuietUntil (session : Session ω) (limit : Nat) : Prop :=
  ∀ deadline, session.nextDeadline? = some deadline → limit < deadline

/-- No yield is pending. -/
def Unyielding (session : Session ω) : Prop :=
  ∀ timer ∈ session.stage.clock.pending, timer.yielded = false

/-- Time passes up to an instant: the timers that are due are taken from the head of the queue, and none
of them is a yield. -/
inductive Flows [Output ω] (limit : Nat) :
    Session ω → List (Moment TimerQueue ω) → Session ω → Prop where
  | rests {session} (quiet : session.QuietUntil limit) : Flows limit session [] (session.rested limit)
  | delivers {session first others middle moments later}
      (pending : session.stage.clock.pending = first :: others) (plain : first.yielded = false)
      (due : first.deadline ≤ limit)
      (delivery : (session.popped (session.stage.clock.past first others)).deliver first.token =
        some middle)
      (rest : Flows limit middle moments later) :
      Flows limit session
        ((session.popped (session.stage.clock.past first others)).deliverMoments first.token ++ moments)
        later

section Rest

variable {session : Session ω} {limit early : Nat} {first : Timer} {others : List Timer}

theorem rested_rested (session : Session ω) (sooner : early ≤ limit) :
    (session.rested early).rested limit = session.rested limit := by
  unfold rested popped mapStage Stage.withClock
  simp only [max_assoc, max_eq_right sooner]

theorem rested_past (session : Session ω) (others : List Timer) (sooner : early ≤ first.deadline) :
    (session.rested early).popped ((session.rested early).stage.clock.past first others) =
      session.popped (session.stage.clock.past first others) := by
  unfold rested popped mapStage Stage.withClock TimerQueue.past
  simp only [max_assoc, max_eq_right sooner]

theorem nextDeadline?_of_pending (pending : session.stage.clock.pending = first :: others) :
    session.nextDeadline? = some first.deadline := by
  rw [nextDeadline?, TimerQueue.nextDeadline?, pending]
  rfl

theorem quietUntil_or (session : Session ω) (limit : Nat) : session.QuietUntil limit ∨
    ∃ first others, session.stage.clock.pending = first :: others ∧ first.deadline ≤ limit := by
  cases pending : session.stage.clock.pending with
  | nil =>
    refine .inl fun deadline next => ?_
    simp [nextDeadline?, TimerQueue.nextDeadline?, pending] at next
  | cons first others =>
    rcases Nat.lt_or_ge limit first.deadline with ahead | due
    · refine .inl fun deadline next => ?_
      rw [nextDeadline?_of_pending pending] at next
      exact Option.some.inj next ▸ ahead
    · exact .inr ⟨first, others, rfl, due⟩

end Rest

variable [Output ω] {window : Window} {session middle later last : Session ω} {limit early : Nat}
  {deliveries : List (Delivery ω)} {moments log : List (Moment TimerQueue ω)}

namespace Flows

theorem quiet (flows : Flows limit session moments later) : later.QuietUntil limit := by
  induction flows with
  | rests quiet => exact quiet
  | delivers _ _ _ _ _ ih => exact ih

theorem split (flows : Flows limit session moments later) (sooner : early ≤ limit) :
    ∃ middle before behind, Flows early session before middle ∧ Flows limit middle behind later ∧
      moments = before ++ behind := by
  induction flows with
  | @rests session quiet =>
    have calm : session.QuietUntil early := fun deadline next => sooner.trans_lt (quiet deadline next)
    refine ⟨session.rested early, [], [], .rests calm, ?_, rfl⟩
    rw [← session.rested_rested sooner]
    exact .rests quiet
  | @delivers session first others _ moments later pending plain due delivery rest ih =>
    rcases Nat.lt_or_ge early first.deadline with ahead | within
    · have calm : session.QuietUntil early := by
        intro deadline next
        rw [nextDeadline?_of_pending pending] at next
        exact Option.some.inj next ▸ ahead
      have same := session.rested_past others ahead.le
      refine ⟨session.rested early, [], _, .rests calm, ?_, rfl⟩
      rw [← same] at delivery ⊢
      exact (.delivers pending plain due delivery rest : Flows limit (session.rested early) _ _)
    · obtain ⟨middle, before, behind, sooner, later, rfl⟩ := ih
      exact ⟨middle, _, behind, .delivers pending plain within delivery sooner, later,
        (List.append_assoc ..).symm⟩

/-- Where the clock stands before the next timer does not matter. -/
theorem of_rested (flows : Flows limit (session.rested early) moments later) (sooner : early ≤ limit)
    (quiet : session.QuietUntil early) : Flows limit session moments later := by
  cases flows with
  | rests still =>
    rw [session.rested_rested sooner]
    exact .rests still
  | @delivers _ first others _ moments _ pending plain due delivery rest =>
    have ahead := quiet _ (nextDeadline?_of_pending pending)
    have same := session.rested_past others ahead.le
    rw [same] at delivery ⊢
    exact .delivers pending plain due delivery rest

/-- The loop of a window delivers these timers, whatever the barrier. -/
theorem fire (window : Window) (flows : Flows window.limit session moments later) (fuel : Nat) :
    ∃ last, session.fire fuel window = some last ∧
      (last.stage.clock.take? window = none →
        later = last.closed window ∧ session.fireMoments fuel window = moments) := by
  induction flows generalizing fuel with
  | @rests session quiet =>
    have none : session.stage.clock.pop? window = none := by
      rw [TimerQueue.pop?_eq, TimerQueue.take?_of_quiet quiet, Option.map_none]
    cases fuel with
    | zero => exact ⟨session, rfl, fun _ => ⟨rfl, rfl⟩⟩
    | succ fuel =>
      refine ⟨session, ?_, fun _ => ⟨rfl, ?_⟩⟩
      · simp only [Session.fire, none]
      · simp only [fireMoments, none]
  | @delivers session first others middle moments later pending plain due delivery rest ih =>
    have taken := TimerQueue.take?_of_plain window pending plain due
    cases fuel with
    | zero => exact ⟨session, rfl, fun exhausted => by simp [exhausted] at taken⟩
    | succ fuel =>
      obtain ⟨last, fired, ends⟩ := ih fuel
      have popped : session.stage.clock.pop? window =
          some (first.token, session.stage.clock.past first others) := by
        rw [TimerQueue.pop?_eq, taken, Option.map_some]
      have delivered := delivery
      unfold Session.popped at delivered
      refine ⟨last, by simp only [Session.fire, popped, delivered, fired], fun exhausted => ?_⟩
      obtain ⟨closed, same⟩ := ends exhausted
      exact ⟨closed, by simp only [fireMoments, popped, delivery, same]⟩

theorem advanceTo (flows : Flows (max early session.now) session moments later)
    (timely : Timely session log) : session.advanceTo early = some later ∧
      session.windowMoments (session.stage.clock.windowTo early) = moments := by
  obtain ⟨last, fired, ends⟩ := flows.fire (session.stage.clock.windowTo early)
    (session.deliveryBound (session.stage.clock.windowTo early).limit)
  obtain ⟨deliveries, fires, -, spent⟩ := Fires.opened.fire fired
  have fewer := timely.fires_length rfl fires
  obtain ⟨rfl, same⟩ := ends (spent.resolve_left fewer.ne)
  refine ⟨?_, same⟩
  rw [Session.advanceTo, fireWindow, fired]
  rfl

end Flows

/-- A yield that is armed in a window is still pending when nothing is left to deliver. -/
theorem Timely.withheld {fuel : Nat} {timer : Timer} (timely : Timely session log)
    (fired : session.fire fuel window = some last) (pending : timer ∈ session.stage.clock.pending)
    (yields : timer.yielded = true) (late : window.barrier ≤ timer.handle) :
    timer ∈ last.stage.clock.pending := by
  induction fuel generalizing session log with
  | zero => exact Option.some.inj fired ▸ pending
  | succ fuel ih =>
    unfold Session.fire at fired
    rw [TimerQueue.pop?_eq] at fired
    cases taken : session.stage.clock.take? window with
    | none =>
      simp only [taken, Option.map_none, Option.some.injEq] at fired
      exact fired ▸ pending
    | some next =>
      obtain ⟨due, clock⟩ := next
      simp only [taken, Option.map_some] at fired
      split at fired
      next => simp at fired
      next reached delivery =>
        obtain ⟨player, wait, moved, beat⟩ := timely.beat taken delivery
        refine ih (timely.delivered taken delivery) fired ?_
        have left : timer ∈ clock.pending := by
          refine (List.mem_cons.1 (beat.takes.perm.mem_iff.1 pending)).resolve_left ?_
          rintro rfl
          exact absurd (beat.takes.isDue.early yields) (Nat.not_lt.2 late)
        rcases beat.drove.arms with ⟨-, -, same⟩ | ⟨next, -, -, arms, -⟩
        · exact same ▸ left
        · exact arms.perm.mem_iff.2 (List.mem_cons_of_mem _ left)

/-- If no yield was pending before a window and none is left after it, there was none in it. -/
theorem Timely.unyielding {fuel : Nat} (timely : Timely session log)
    (barrier : window.barrier = session.stage.clock.nextHandle) (within : session.now ≤ window.limit)
    (plain : session.Unyielding) (fires : Fires window session deliveries middle)
    (fired : middle.fire fuel window = some last) (left : last.Unyielding) : middle.Unyielding := by
  intro timer pending
  by_contra yields
  rw [Bool.not_eq_false] at yields
  obtain ⟨⟨armed, books⟩, -, -⟩ := timely.books barrier within fires
  rcases Nat.lt_or_ge timer.handle window.barrier with old | new
  · exact absurd yields (by simp [plain timer (books.old pending old)])
  · have stays := (fires.timely timely within).1.withheld fired pending yields new
    exact absurd yields (by simp [left timer stays])

theorem Fires.flows {fuel : Nat} (fires : Fires window session deliveries middle)
    (timely : Timely session log) (barrier : window.barrier = session.stage.clock.nextHandle)
    (within : session.now ≤ window.limit) (plain : session.Unyielding)
    (fired : middle.fire fuel window = some last) (exhausted : last.stage.clock.take? window = none)
    (left : last.Unyielding) :
    Flows window.limit middle (middle.fireMoments fuel window) (last.closed window) := by
  induction fuel generalizing deliveries middle with
  | zero =>
    obtain rfl := Option.some.inj fired
    rcases middle.quietUntil_or window.limit with quiet | ⟨first, others, pending, due⟩
    · exact .rests quiet
    · have taken := TimerQueue.take?_of_plain window pending
        (left first (pending ▸ List.mem_cons_self)) due
      simp [exhausted] at taken
  | succ fuel ih =>
    have unyielding := timely.unyielding barrier within plain fires fired left
    unfold Session.fire at fired
    unfold fireMoments
    rcases middle.quietUntil_or window.limit with quiet | ⟨first, others, pending, due⟩
    · rw [TimerQueue.pop?_eq, TimerQueue.take?_of_quiet quiet] at fired ⊢
      exact Option.some.inj fired ▸ .rests quiet
    · have plain := unyielding first (pending ▸ List.mem_cons_self)
      have taken := TimerQueue.take?_of_plain window pending plain due
      simp only [TimerQueue.pop?_eq, taken, Option.map_some] at fired ⊢
      split at fired
      next => simp at fired
      next reached delivery =>
        have delivery : (middle.popped (middle.stage.clock.past first others)).deliver first.token =
          some reached := delivery
        simp only [delivery]
        exact .delivers pending plain due delivery (ih (fires.delivered taken delivery) fired)

/-- A window without yields. -/
theorem Timely.flows (timely : Timely session log) (within : session.now ≤ limit)
    (plain : session.Unyielding) (answer : session.advanceTo limit = some later)
    (left : later.Unyielding) :
    ∃ moments, Flows limit session moments later := by
  rw [Session.advanceTo, fireWindow, Option.map_eq_some_iff] at answer
  obtain ⟨last, fired, rfl⟩ := answer
  obtain ⟨deliveries, fires, -, spent⟩ := Fires.opened.fire fired
  have fewer := timely.fires_length rfl fires
  have flows := Fires.opened.flows timely rfl (le_max_right _ _) plain fired
    (spent.resolve_left fewer.ne) left
  rw [show (session.stage.clock.windowTo limit).limit = limit from max_eq_left within] at flows
  exact ⟨_, flows⟩

theorem Timely.advanceTo_now (timely : Timely session log)
    (answer : session.advanceTo limit = some later) : later.now = max limit session.now := by
  obtain ⟨deliveries, last, fires, -, rfl, -⟩ := timely.fired rfl answer
  exact max_eq_right (fires.timely timely (le_max_right _ _)).2.2

/-- A first window, up to an instant within the time that passes. -/
theorem Flows.cut (flows : Flows limit session moments later) (timely : Timely session log)
    (within : session.now ≤ limit) (sooner : early ≤ limit) :
    ∃ middle before behind, session.advanceTo early = some middle ∧
      session.windowMoments (session.stage.clock.windowTo early) = before ∧
      Flows (max early session.now) session before middle ∧ Flows limit middle behind later ∧
      moments = before ++ behind := by
  obtain ⟨middle, before, behind, first, second, split⟩ := flows.split (max_le sooner within)
  obtain ⟨answer, same⟩ := first.advanceTo timely
  exact ⟨middle, before, behind, answer, same, first, second, split⟩

/-- A session comes to `idle` from deadline to deadline, whatever happens up to `last`. -/
structure Idles (last : Nat) (session : Session ω) (moments : List (Moment TimerQueue ω))
    (later : Session ω) (enough : Nat → Prop) (idle : Session ω) : Prop where
  settles : ∀ rounds, enough rounds → session.settle last rounds = some idle ∧
    session.settleMoments last rounds = moments
  within : idle.now ≤ last
  quiet : idle.QuietUntil last
  rested : idle.rested last = later

/-- When nothing is due at once, every round moves the clock. -/
theorem Timely.idles_of_quiet {last : Nat} (timely : Timely session log) (within : session.now ≤ last)
    (flows : Flows last session moments later) (quiet : session.QuietUntil session.now) :
    ∃ idle, Idles last session moments later (fun _ => True) idle := by
  induction gap : last - session.now using Nat.strong_induction_on
    generalizing session log moments with
  | _ gap ih =>
    subst gap
    rcases session.quietUntil_or last with calm | ⟨first, others, pending, due⟩
    · cases flows with
      | delivers pending _ due =>
        exact absurd due (Nat.not_le.2 (calm _ (nextDeadline?_of_pending pending)))
      | rests =>
        refine ⟨session, fun rounds _ => ?_, within, calm, rfl⟩
        rw [settle, settleMoments]
        cases next : session.nextDeadline? with
        | none => exact ⟨rfl, rfl⟩
        | some deadline => exact ⟨if_pos (.inl (calm _ next)), if_pos (.inl (calm _ next))⟩
    · have next := nextDeadline?_of_pending pending
      have ahead := quiet _ next
      obtain ⟨middle, before, behind, answer, delivered, sooner, later, rfl⟩ :=
        flows.cut timely within due
      have reaches : middle.now = first.deadline :=
        (timely.advanceTo_now answer).trans (max_eq_left ahead.le)
      have moved : session.now < middle.now := reaches ▸ ahead
      obtain ⟨idle, idles⟩ := ih _ (by omega) (Timely.lasting.pass timely answer) (reaches ▸ due) later
        ((timely.advanceTo_now answer) ▸ sooner.quiet) rfl
      refine ⟨idle, fun rounds _ => ?_, idles.within, idles.quiet, idles.rested⟩
      obtain ⟨settled, rest⟩ := idles.settles roundsPerInstant trivial
      have near : ¬(last < first.deadline ∨ last < session.now) := by omega
      rw [settle, settleMoments, next]
      simp only [if_neg near, answer, if_pos moved, delivered, settled, rest, true_and]

/-- Only the first round can leave the clock where it is. -/
theorem Timely.idles {last : Nat} (timely : Timely session log) (within : session.now ≤ last)
    (flows : Flows last session moments later) :
    ∃ idle, Idles last session moments later (2 ≤ ·) idle := by
  rcases session.quietUntil_or session.now with quiet | ⟨first, others, pending, due⟩
  · obtain ⟨idle, idles⟩ := timely.idles_of_quiet within flows quiet
    exact ⟨idle, fun rounds _ => idles.settles rounds trivial, idles.within, idles.quiet, idles.rested⟩
  · have next := nextDeadline?_of_pending pending
    obtain ⟨middle, before, behind, answer, delivered, sooner, later, rfl⟩ :=
      flows.cut timely within (due.trans within)
    have reaches := timely.advanceTo_now answer
    have still : middle.now = session.now := reaches.trans (max_eq_right due)
    obtain ⟨idle, idles⟩ := (Timely.lasting.pass timely answer).idles_of_quiet (still ▸ within) later
      (reaches ▸ sooner.quiet)
    refine ⟨idle, fun rounds enough => ?_, idles.within, idles.quiet, idles.rested⟩
    obtain ⟨settled, rest⟩ := idles.settles (rounds - 1) trivial
    have near : ¬(last < first.deadline ∨ last < session.now) := by omega
    have more : ¬(rounds ≤ 1 ∨ middle.now < session.now) := by omega
    have stays : ¬session.now < middle.now := by omega
    rw [settle, settleMoments, next]
    simp only [if_neg near, answer, if_neg stays, if_neg more, delivered, settled, rest, true_and]

theorem Timely.lt_of_quiet {timer : Timer} (timely : Timely session log)
    (quiet : session.QuietUntil limit) (pending : timer ∈ session.stage.clock.pending) :
    limit < timer.deadline := by
  have ordered := timely.ordered
  cases all : session.stage.clock.pending with
  | nil => simp [all] at pending
  | cons first others =>
    have ahead := quiet _ (nextDeadline?_of_pending all)
    rw [TimerQueue.Ordered, all, List.pairwise_cons] at ordered
    rcases List.mem_cons.1 (all ▸ pending) with rfl | behind
    · exact ahead
    · exact ahead.trans_le (ordered.1 timer behind).deadline_le

/-! ### Steps of any size -/

/-- The last instant up to which a request may let time pass. -/
def latest? (session : Session ω) : Request ω → Option Nat
  | .runUntilIdle limit => some (session.now + limit)
  | request => session.until? request

/-- All that the requests do is to let time pass, and not beyond an instant. -/
def StaysWithin (limit : Nat) : Session ω → List (Request ω) → Prop
  | _, [] => True
  | session, request :: rest =>
      (∃ last ≤ limit, session.latest? request = some last) ∧
        ∀ later, session.perform request = some later → later.StaysWithin limit rest

theorem Flows.perform {request : Request ω} {last : Nat} (flows : Flows limit session moments later)
    (timely : Timely session log) (within : session.now ≤ limit) (early : limit ≤ Span.longest)
    (asked : session.latest? request = some last) (sooner : last ≤ limit) :
    ∃ middle behind, session.perform request = some middle ∧ middle.now ≤ limit ∧
      Flows limit middle behind later := by
  unfold latest? at asked
  split at asked
  next allowed =>
    obtain rfl := Option.some.inj asked
    obtain ⟨reached, before, behind, first, second, -⟩ := flows.split sooner
    obtain ⟨idle, settles, bounded, quiet, rfl⟩ := timely.idles (Nat.le_add_right _ _) first
    obtain ⟨settled, -⟩ := settles roundsPerInstant (by decide)
    have reach : Span.after? session.now allowed = some (session.now + allowed) :=
      Span.after?_eq_some_iff.2 ⟨sooner.trans early, rfl⟩
    refine ⟨idle, behind, ?_, bounded.trans sooner, second.of_rested sooner quiet⟩
    rw [Session.perform, runUntilIdle, reach]
    simp [settled]
  next =>
    obtain ⟨middle, -, behind, answer, -, -, second, -⟩ := flows.cut timely within sooner
    have performed := perform_of_until? asked (sooner.trans early)
    refine ⟨middle, behind, performed.trans answer, ?_, second⟩
    exact (timely.advanceTo_now answer).trans_le (max_le sooner within)

theorem Flows.performAll {requests : List (Request ω)} (flows : Flows limit session moments later)
    (timely : Timely session log) (within : session.now ≤ limit) (early : limit ≤ Span.longest)
    (stays : session.StaysWithin limit requests) :
    ∃ middle, session.performAll requests = some middle ∧ middle.advanceTo limit = some later := by
  induction requests generalizing session log moments with
  | nil =>
    rw [← max_eq_left within] at flows
    exact ⟨session, rfl, (flows.advanceTo timely).1⟩
  | cons request rest ih =>
    obtain ⟨⟨last, sooner, asked⟩, onward⟩ := stays
    obtain ⟨middle, behind, answer, bounded, second⟩ :=
      flows.perform timely within early asked sooner
    obtain ⟨reached, performed, ends⟩ :=
      ih second (Timely.lasting.performed timely answer) bounded (onward middle answer)
    refine ⟨reached, ?_, ends⟩
    rw [Session.performAll, List.foldlM_cons, answer]
    exact performed

/-- It does not matter in which steps a host lets time pass while nobody yields, which is so if no yield
is left at the end: up to the same instant the session comes out the same, with all that players have
done and when. Left to itself until it is idle, it does not give up, whatever number of rounds it may
spend at one instant: the same timers are delivered, and no others are due. -/
theorem Reachable.slices_eq_advanceTo (reachable : session.Reachable) {target : Nat}
    (ahead : session.now ≤ target) (early : target ≤ Span.longest) (plain : session.Unyielding)
    (answer : session.advanceTo target = some later) (left : later.Unyielding) :
    (∀ requests, session.StaysWithin target requests →
      session.performAll (requests ++ [.advanceTo target]) = some later) ∧
    ∃ idle, session.runUntilIdle (target - session.now) = some (idle.now - session.now, idle) ∧
      (∀ rounds, 2 ≤ rounds → session.settle target rounds = some idle) ∧
      session.moments (.runUntilIdle (target - session.now)) = session.moments (.advanceTo target) ∧
      idle.now ≤ target ∧ (∀ timer ∈ idle.stage.clock.pending, target < timer.deadline) ∧
      idle.rested target = later := by
  obtain ⟨log, run⟩ := reachable
  have timely := run.timely
  obtain ⟨moments, flows⟩ := timely.flows ahead plain answer left
  constructor
  · intro requests stays
    obtain ⟨middle, performed, ends⟩ := flows.performAll timely ahead early stays
    rw [performAll, List.foldlM_append, ← performAll, performed]
    simpa [perform] using ends
  · have allowed : session.now + (target - session.now) = target := Nat.add_sub_cancel' ahead
    have reach : Span.after? session.now (target - session.now) = some target :=
      Span.after?_eq_some_iff.2 ⟨allowed.trans_le early, allowed⟩
    obtain ⟨idle, settles, bounded, quiet, rested⟩ := timely.idles ahead flows
    obtain ⟨settled, delivered⟩ := settles roundsPerInstant (by decide)
    have answer : session.runUntilIdle (target - session.now) =
        some (idle.now - session.now, idle) := by simp [runUntilIdle, reach, settled]
    have performed : session.perform (.runUntilIdle (target - session.now)) = some idle := by
      rw [perform, answer, Option.map_some]
    have kept := Timely.lasting.performed timely performed
    refine ⟨idle, answer, fun rounds enough => (settles rounds enough).1, ?_, bounded,
      fun timer pending => kept.lt_of_quiet quiet pending, rested⟩
    rw [← max_eq_left ahead] at flows
    simp only [Session.moments, reach]
    exact delivered.trans (flows.advanceTo timely).2.symm

/-- Ten milliseconds, in which a wait of five ends, in one step and in three. -/
theorem slices_eq_advanceTo_relay :
    ∃ session later : Session Universe, session.pendingTimers = 1 ∧ later.pendingTimers = 0 ∧
      session.advanceTo (Span.ofMilliseconds 10) = some later ∧
      session.performAll ([.advance (Span.ofMilliseconds 2), .runUntilIdle (Span.ofMilliseconds 4)] ++
        [.advanceTo (Span.ofMilliseconds 10)]) = some later := by
  have course : ((Session.bare 3).perform (.play .relay)).map
      (fun session => (session.stage.clock.pending, session.now,
        (session.advanceTo (Span.ofMilliseconds 10)).map fun later => later.stage.clock.pending,
        (session.advance (Span.ofMilliseconds 2)).map Session.now)) =
      some ([⟨Span.ofMilliseconds 5, 0, ⟨⟨1⟩, 1⟩, false⟩], 0, some [],
        some (Span.ofMilliseconds 2)) := by decide
  obtain ⟨session, played, stands⟩ := Option.map_eq_some_iff.1 course
  simp only [Prod.mk.injEq, Option.map_eq_some_iff] at stands
  obtain ⟨pending, now, ⟨later, answer, left⟩, ⟨first, advanced, reached⟩⟩ := stands
  have stays : session.StaysWithin (Span.ofMilliseconds 10)
      [.advance (Span.ofMilliseconds 2), .runUntilIdle (Span.ofMilliseconds 4)] := by
    refine ⟨⟨_, ?_, rfl⟩, ?_⟩
    · rw [now]
      decide
    · intro middle performed
      obtain rfl := Option.some.inj (advanced.symm.trans performed)
      refine ⟨⟨_, ?_, rfl⟩, fun _ _ => trivial⟩
      rw [reached]
      decide
  have reachable : session.Reachable := ⟨_, .perform (.bare 3) _ played⟩
  have same := (reachable.slices_eq_advanceTo (by rw [now]; exact Nat.zero_le _) (by decide)
    (by simp [Unyielding, pending]) answer (by simp [Unyielding, left])).1 _ stays
  exact ⟨session, later, by simp [pendingTimers, pending], by simp [pendingTimers, left], answer, same⟩

end Session

end LightingDesk
