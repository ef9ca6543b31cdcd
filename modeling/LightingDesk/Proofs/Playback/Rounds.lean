import LightingDesk.Proofs.Playback.Cast
import LightingDesk.Proofs.Playback.Thrift
import Mathlib.Data.List.Chain

/-!
A session that is left to itself. Time passes in rounds, each of them up to the next deadline. A round that
leaves the clock where it was leaves nothing due behind but the yields that were armed in it, so only
yields can keep the loop busy at one instant: `Session.Reachable.comes_to_rest`.
-/

namespace LightingDesk

open TimerQueue

variable {ω : Type}

/-- A round of the loop: the session at its beginning and at its end, the deadline up to which it lets time
pass, the timers that it delivers, and those that are armed meanwhile. -/
structure Round (ω : Type) where
  found : Session ω
  deadline : Nat
  deliveries : List (Delivery ω)
  armed : List Timer
  later : Session ω

namespace Round

def window (round : Round ω) : Window := round.found.stage.clock.windowTo round.deadline

/-- The round leaves the clock at the instant at which it has found it. -/
def Stays (instant : Nat) (round : Round ω) : Prop :=
  round.found.now = instant ∧ round.later.now = instant

/-- A yield is delivered in the round. -/
def Yields (round : Round ω) : Prop := ∃ delivery ∈ round.deliveries, delivery.timer.yielded = true

variable [Output ω] {last : Nat} {round first second : Round ω} {timer : Timer}

/-- The round is played as far as the next deadline, which is due by `last`. -/
structure Elapses (last : Nat) (round : Round ω) : Prop where
  next : round.found.nextDeadline? = some round.deadline
  within : round.deadline ≤ last
  answer : round.found.advanceTo round.deadline = some round.later
  delivers : ∃ middle, Session.Delivers round.window round.found round.deliveries round.armed middle ∧
    round.later = middle.closed round.window

namespace Elapses

theorem now (elapses : round.Elapses last) : round.later.now = max round.deadline round.found.now := by
  obtain ⟨middle, delivers, closed⟩ := elapses.delivers
  calc round.later.now = max middle.now round.window.limit := congrArg Session.now closed
    _ = round.window.limit := max_eq_right delivers.within

theorem onward (elapses : round.Elapses last) : round.found.now ≤ round.later.now :=
  elapses.now ▸ le_max_right _ _

theorem later_le (elapses : round.Elapses last) (within : round.found.now ≤ last) :
    round.later.now ≤ last :=
  elapses.now ▸ max_le elapses.within within

/-- What a round leaves due at once has been armed in it and is a yield. -/
theorem left (elapses : round.Elapses last) (pending : timer ∈ round.later.stage.clock.pending)
    (due : timer.deadline ≤ round.later.now) : timer ∈ round.armed ∧ timer.yielded = true := by
  obtain ⟨middle, delivers, closed⟩ := elapses.delivers
  have waits : timer ∈ middle.stage.clock.pending := by
    rw [closed] at pending
    exact pending
  have limit : round.window.limit = round.later.now := elapses.now.symm
  -- anything else that still waits has its deadline beyond the window
  apply (delivers.rest timer waits).resolve_left
  omega

/-- A round that leaves the clock where the one before it has left it delivers a yield of that round. -/
theorem relays (elapses : first.Elapses last) (follows : second.Elapses last)
    (next : second.found = first.later) (stays : second.later.now = second.found.now) :
    ∃ delivery ∈ second.deliveries, delivery.timer ∈ first.armed ∧ delivery.timer.yielded = true := by
  -- the timer for which the second round is played is one that the first has left due
  obtain ⟨timer, head, deadline⟩ := Option.map_eq_some_iff.1 follows.next
  have pending : timer ∈ second.found.stage.clock.pending := List.mem_of_mem_head? head
  have due : timer.deadline ≤ second.found.now := by
    have now := follows.now
    omega
  rw [next] at due
  obtain ⟨armed, yielded⟩ := elapses.left (next ▸ pending) due
  obtain ⟨middle, delivers, -⟩ := follows.delivers
  have once := delivers.yields timer pending yielded
  have delivered : timer ∈ second.deliveries.map Delivery.timer := by
    apply List.count_pos_iff.1
    omega
  obtain ⟨delivery, member, rfl⟩ := List.mem_map.1 delivered
  exact ⟨delivery, member, armed, yielded⟩

end Elapses

end Round

namespace Session

variable [Output ω]

/-- The loop as a host sees it, with its rounds: it ends when nothing is due by `last`, when a window breaks
off, or when the clock has stood still for too many rounds in a row, of which there were `still` before. -/
inductive Settles (last : Nat) : Nat → Session ω → List (Round ω) → Option (Session ω) → Prop where
  | rests {still session} (quiet : session.QuietUntil last) : Settles last still session [] (some session)
  | breaks {still session deadline} (next : session.nextDeadline? = some deadline)
      (within : deadline ≤ last) (broken : session.BreaksOff (session.stage.clock.windowTo deadline)) :
      Settles last still session [] none
  | moves {still round rounds outcome} (elapses : round.Elapses last)
      (moved : round.found.now < round.later.now) (rest : Settles last 0 round.later rounds outcome) :
      Settles last still round.found (round :: rounds) outcome
  | waits {still round rounds outcome} (elapses : round.Elapses last)
      (stays : round.Stays round.found.now) (more : still + 1 < roundsPerInstant)
      (rest : Settles last (still + 1) round.later rounds outcome) :
      Settles last still round.found (round :: rounds) outcome
  | givesUp {still round} (elapses : round.Elapses last) (stays : round.Stays round.found.now)
      (spent : still + 1 = roundsPerInstant) :
      Settles last still round.found [round] (some round.later)

variable {session later : Session ω} {outcome : Option (Session ω)} {rounds : List (Round ω)}
  {log : List (Moment TimerQueue ω)} {last still deadline : Nat}

theorem Timely.elapses (timely : Timely session log) (next : session.nextDeadline? = some deadline)
    (within : deadline ≤ last) (answer : session.advanceTo deadline = some later) :
    ∃ deliveries armed, Round.Elapses last ⟨session, deadline, deliveries, armed, later⟩ := by
  obtain ⟨deliveries, armed, middle, delivers, closed⟩ := timely.drained rfl (le_max_right _ _) answer
  exact ⟨deliveries, armed, next, within, answer, middle, delivers, closed⟩

/-- Whatever the loop comes to, it has come there in rounds. -/
theorem Timely.settles (timely : Timely session log) (near : session.now ≤ last)
    (early : last ≤ Span.longest) {left : Nat} (some : 0 < left) (most : left ≤ roundsPerInstant) :
    ∃ rounds, Settles last (roundsPerInstant - left) session rounds (session.settle last left) := by
  -- the rounds that are left at an instant and those that were there before make up the limit
  fun_induction Session.settle last left session generalizing log with
  | case1 left session idle => exact ⟨[], .rests (by simp [QuietUntil, idle])⟩
  | case2 left session deadline next past =>
    have ahead : last < deadline := by omega
    exact ⟨[], .rests fun other same => Option.some.inj (next.symm.trans same) ▸ ahead⟩
  | case3 left session deadline next due failed =>
    have within : deadline ≤ last := by omega
    have broken := timely.breaksOff (le_max_right _ _) ((max_le within near).trans early) failed
    exact ⟨[], .breaks next within broken⟩
  | case4 left session deadline next due reached answer moved ih =>
    have within : deadline ≤ last := by omega
    obtain ⟨deliveries, armed, elapses⟩ := timely.elapses next within answer
    obtain ⟨rounds, rest⟩ := ih (Timely.lasting.pass timely answer) (elapses.later_le near) (by decide) le_rfl
    rw [Nat.sub_self] at rest
    exact ⟨_, .moves elapses moved rest⟩
  | case5 left session deadline next due reached answer still spent =>
    have within : deadline ≤ last := by omega
    obtain ⟨deliveries, armed, elapses⟩ := timely.elapses next within answer
    have onward := elapses.onward
    refine ⟨_, .givesUp elapses ⟨rfl, ?_⟩ ?_⟩
    · dsimp only at onward ⊢
      omega
    · dsimp only at onward
      omega
  | case6 left session deadline next due reached answer still more ih =>
    have within : deadline ≤ last := by omega
    obtain ⟨deliveries, armed, elapses⟩ := timely.elapses next within answer
    have onward := elapses.onward
    obtain ⟨rounds, rest⟩ := ih (Timely.lasting.pass timely answer) (elapses.later_le near) (by omega)
      (by omega)
    rw [show roundsPerInstant - (left - 1) = roundsPerInstant - left + 1 by omega] at rest
    refine ⟨_, .waits elapses ⟨rfl, ?_⟩ ?_ rest⟩
    · dsimp only at onward ⊢
      omega
    · omega

namespace Settles

theorem elapses (settles : Settles last still session rounds outcome) :
    ∀ round ∈ rounds, round.Elapses last := by
  induction settles with
  | rests | breaks => simp
  | moves elapses _ _ ih | waits elapses _ _ _ ih => exact List.forall_mem_cons.2 ⟨elapses, ih⟩
  | givesUp elapses => exact List.forall_mem_singleton.2 elapses

theorem found (settles : Settles last still session rounds outcome) :
    ∀ round ∈ rounds.head?, round.found = session := by
  cases settles with
  | rests | breaks => simp
  | moves | waits | givesUp => simp

/-- Each round begins where the one before it ended. -/
theorem chained (settles : Settles last still session rounds outcome) :
    rounds.IsChain fun first second => second.found = first.later := by
  induction settles with
  | rests | breaks => exact .nil
  | moves _ _ rest ih | waits _ _ _ rest ih => exact List.isChain_cons.2 ⟨rest.found, ih⟩
  | givesUp => exact .singleton _

theorem onward (settles : Settles last still session rounds (some later)) :
    session.now ≤ later.now ∧ (session.now ≤ last → later.now ≤ last) := by
  generalize ends : some later = outcome at settles
  induction settles with
  | rests => exact Option.some.inj ends ▸ ⟨le_rfl, id⟩
  | breaks => cases ends
  | moves elapses _ _ ih | waits elapses _ _ _ ih =>
    exact ⟨elapses.onward.trans (ih ends).1, fun within => (ih ends).2 (elapses.later_le within)⟩
  | givesUp elapses =>
    obtain rfl := Option.some.inj ends
    exact ⟨elapses.onward, elapses.later_le⟩

/-- The loop ends with nothing due, or with as many rounds at one instant as it may spend there: all of
these since the clock has moved, or together with those that were there before. -/
theorem ends (settles : Settles last still session rounds (some later)) (few : still < roundsPerInstant) :
    later.QuietUntil last ∨
    (∃ before stuck, rounds = before ++ stuck ∧ stuck.length = roundsPerInstant ∧
      ∀ round ∈ stuck, round.Stays later.now) ∨
    session.now = later.now ∧ still + rounds.length = roundsPerInstant ∧
      ∀ round ∈ rounds, round.Stays later.now := by
  generalize ends : some later = outcome at settles
  induction settles with
  | rests quiet => exact .inl (Option.some.inj ends ▸ quiet)
  | breaks => cases ends
  | @moves _ round rounds _ _ _ _ ih =>
    rcases ih (by decide) ends with quiet | ⟨before, stuck, rfl, long, stays⟩ | ⟨-, long, stays⟩
    · exact .inl quiet
    · exact .inr (.inl ⟨round :: before, stuck, rfl, long, stays⟩)
    · exact .inr (.inl ⟨[round], rounds, rfl, (Nat.zero_add _).symm.trans long, stays⟩)
  | @waits still round rounds _ _ here more _ ih =>
    rcases ih more ends with quiet | ⟨before, stuck, rfl, long, stays⟩ | ⟨now, long, stays⟩
    · exact .inl quiet
    · exact .inr (.inl ⟨round :: before, stuck, rfl, long, stays⟩)
    · have same : round.found.now = later.now := here.2.symm.trans now
      refine .inr (.inr ⟨same, ?_, List.forall_mem_cons.2 ⟨same ▸ here, stays⟩⟩)
      rw [List.length_cons]
      omega
  | givesUp _ here spent =>
    obtain rfl := Option.some.inj ends
    refine .inr (.inr ⟨here.2.symm, spent, List.forall_mem_singleton.2 ?_⟩)
    rw [here.2]
    exact here

end Settles

/-- The rounds leave the players and their acts as they are. -/
theorem Timely.cast_elapses {round : Round ω} (timely : Timely round.found log)
    (elapses : round.Elapses last) : round.later.cast = round.found.cast :=
  ((Casts.passes round.found.cast).pass ⟨timely.toLives, rfl⟩ elapses.answer).2

namespace Settles

theorem timely (settles : Settles last still session rounds (some later)) (timely : Timely session log) :
    ∃ log, Timely later log := by
  generalize ends : some later = outcome at settles
  induction settles generalizing log with
  | rests => exact Option.some.inj ends ▸ ⟨log, timely⟩
  | breaks => cases ends
  | moves elapses _ _ ih | waits elapses _ _ _ ih =>
    exact ih (Timely.lasting.pass timely elapses.answer) ends
  | givesUp elapses =>
    obtain rfl := Option.some.inj ends
    exact ⟨_, Timely.lasting.pass timely elapses.answer⟩

/-- The loop breaks off only over an act whose delays do not fit between its end and the last instant. -/
theorem overruns (settles : Settles last still session rounds none) (timely : Timely session log)
    (near : session.now ≤ last) : ∃ entry ∈ session.cast, entry.2.Overruns last := by
  generalize ends : none = outcome at settles
  induction settles generalizing log with
  | rests | givesUp => cases ends
  | breaks _ within broken =>
    obtain ⟨player, member, overruns⟩ := broken.overruns timely (le_max_right _ _)
    exact ⟨(player.id, player.act), List.mem_map_of_mem member, overruns.mono (max_le within near)⟩
  | moves elapses _ _ ih | waits elapses _ _ _ ih =>
    rw [← timely.cast_elapses elapses]
    exact ih (Timely.lasting.pass timely elapses.answer) (elapses.later_le near) ends

end Settles

theorem exists_before {α : Type} {R : α → α → Prop} {list : List α} (chain : list.IsChain R) {next : α}
    (member : next ∈ list.tail) : ∃ before ∈ list, R before next := by
  induction chain with
  | nil | singleton => cases member
  | @cons_cons first second rest related _ ih =>
    rcases List.mem_cons.1 member with rfl | behind
    · exact ⟨first, List.mem_cons_self, related⟩
    · obtain ⟨before, listed, related⟩ := ih behind
      exact ⟨before, List.mem_cons_of_mem _ listed, related⟩

/-- Of rounds at one instant, each but the first delivers a yield that has been armed in one of them. -/
theorem Settles.relays {before stuck : List (Round ω)} {instant : Nat}
    (settles : Settles last still session (before ++ stuck) outcome)
    (stays : ∀ round ∈ stuck, round.Stays instant) {round : Round ω} (member : round ∈ stuck.tail) :
    ∃ earlier ∈ stuck, ∃ delivery ∈ round.deliveries,
      delivery.timer ∈ earlier.armed ∧ delivery.timer.yielded = true := by
  obtain ⟨earlier, listed, next⟩ := exists_before settles.chained.right_of_append member
  have inside := List.mem_of_mem_tail member
  have elapses := settles.elapses earlier (List.mem_append_right _ listed)
  have follows := settles.elapses round (List.mem_append_right _ inside)
  have still := (stays round inside).2.trans (stays round inside).1.symm
  exact ⟨earlier, listed, elapses.relays follows next still⟩

/-- How the loop leaves a session: with nothing due by `last`, or busy with yields. Where nobody yields,
nothing is due. -/
structure Settled (last : Nat) (rounds : List (Round ω)) (later : Session ω) : Prop where
  within : later.now ≤ last
  ends : later.pendingTimers = 0 ∨
    (∃ deadline, later.nextDeadline? = some deadline ∧ last < deadline ∧
      ∀ timer ∈ later.stage.clock.pending, deadline ≤ timer.deadline) ∨
    ∃ before stuck, rounds = before ++ stuck ∧ stuck.length = roundsPerInstant ∧
      (∀ round ∈ stuck, round.Stays later.now) ∧ ∀ round ∈ stuck.tail, round.Yields
  unyielding : (∀ round ∈ rounds, ∀ timer ∈ round.armed, timer.yielded = false) →
    ∀ timer ∈ later.stage.clock.pending, last < timer.deadline

theorem Timely.settled_of_quiet (timely : Timely later log) (within : later.now ≤ last)
    (quiet : later.QuietUntil last) : Settled last rounds later where
  within := within
  ends := by
    cases next : later.nextDeadline? with
    | none =>
      refine .inl ?_
      simpa [nextDeadline?, TimerQueue.nextDeadline?, pendingTimers] using next
    | some deadline =>
      exact .inr (.inl ⟨deadline, rfl, quiet deadline next, fun _ => timely.nextDeadline_le next⟩)
  unyielding := fun _ _ => timely.lt_of_quiet quiet

/-- Stuck for as many rounds as the loop allows, the session has been kept busy by yields. -/
theorem Settles.settled_of_stuck {before stuck : List (Round ω)}
    (settles : Settles last still session (before ++ stuck) (some later)) (within : later.now ≤ last)
    (long : stuck.length = roundsPerInstant) (stays : ∀ round ∈ stuck, round.Stays later.now) :
    Settled last (before ++ stuck) later where
  within := within
  ends := by
    refine .inr (.inr ⟨before, stuck, rfl, long, stays, fun round member => ?_⟩)
    obtain ⟨earlier, -, delivery, delivered, -, yielded⟩ := settles.relays stays member
    exact ⟨delivery, delivered, yielded⟩
  unyielding := by
    intro plain
    -- there is a second round at that instant, and what it relays is a yield
    have several : 0 < stuck.tail.length := by
      rw [List.length_tail, long]
      decide
    obtain ⟨round, member⟩ := List.exists_mem_of_length_pos several
    obtain ⟨earlier, listed, delivery, -, armed, yielded⟩ := settles.relays stays member
    have never := plain earlier (List.mem_append_right _ listed) delivery.timer armed
    exact absurd yielded (by simp [never])

theorem Settles.settled (settles : Settles last 0 session rounds (some later))
    (timely : Timely session log) (near : session.now ≤ last) : Settled last rounds later := by
  obtain ⟨later_log, kept⟩ := settles.timely timely
  have within := settles.onward.2 near
  rcases settles.ends (by decide) with quiet | ⟨before, stuck, rfl, long, stays⟩ | ⟨-, long, stays⟩
  · exact kept.settled_of_quiet within quiet
  · exact settles.settled_of_stuck within long stays
  · rw [Nat.zero_add] at long
    rw [← List.nil_append rounds] at settles ⊢
    exact settles.settled_of_stuck within long stays

/-- Left to itself, a session comes to rest or runs in circles. The loop ends in every case: it breaks off
only over a delay that would end after the last instant, never if all acts leave room for their delays, and
otherwise it tells how much time has passed, no more than it was allowed. Then nothing is due any more, or
the clock has stood still for all the rounds that it may, each of which but the first has delivered a
yield. So where nobody yields, nothing is due, however many players wait for one instant. -/
theorem Reachable.comes_to_rest {limit : Nat} (reachable : session.Reachable)
    (early : session.now + limit ≤ Span.longest) :
    ∃ rounds,
      Settles (session.now + limit) 0 session rounds ((session.runUntilIdle limit).map Prod.snd) ∧
      ((∀ player ∈ session.players, ¬player.act.Overruns (session.now + limit)) →
        (session.runUntilIdle limit).isSome = true) ∧
      ∀ passed later, session.runUntilIdle limit = some (passed, later) →
        passed ≤ limit ∧ later.now = session.now + passed ∧
        Settled (session.now + limit) rounds later := by
  obtain ⟨log, run⟩ := reachable
  have timely := run.timely
  have near : session.now ≤ session.now + limit := Nat.le_add_right _ _
  have ran : (session.runUntilIdle limit).map Prod.snd =
      session.settle (session.now + limit) roundsPerInstant := by
    rw [runUntilIdle, Span.after?_eq_some_iff.2 ⟨early, rfl⟩]
    cases settled : session.settle (session.now + limit) roundsPerInstant with
    | none => simp [settled]
    | some later => simp [settled]
  obtain ⟨rounds, settles⟩ := timely.settles near early (by decide) le_rfl
  rw [Nat.sub_self, ← ran] at settles
  refine ⟨rounds, settles, fun room => ?_, fun passed later answer => ?_⟩
  · by_contra broken
    rw [Option.not_isSome_iff_eq_none.1 broken] at settles
    obtain ⟨entry, member, overruns⟩ := settles.overruns timely near
    obtain ⟨player, listed, -, plays⟩ := mem_cast.1 member
    exact room player listed (plays ▸ overruns)
  · rw [answer] at settles
    have settled := settles.settled timely near
    obtain rfl := (passed_of_run answer).2
    have onward : session.now ≤ later.now := settles.onward.1
    have within : later.now ≤ session.now + limit := settled.within
    exact ⟨by omega, by omega, settled⟩

/-- A wait of five milliseconds, and ten in which it may end. -/
theorem comes_to_rest_relay :
    ∃ session later : Session Universe, session.Reachable ∧ session.pendingTimers = 1 ∧
      session.now + Span.ofMilliseconds 10 ≤ Span.longest ∧
      session.runUntilIdle (Span.ofMilliseconds 10) = some (Span.ofMilliseconds 5, later) ∧
      ∃ rounds, Settled (session.now + Span.ofMilliseconds 10) rounds later := by
  have course : ((Session.bare 3).perform (.play .relay)).map
      (fun session => (session.now, session.pendingTimers, session.nextDeadline?,
        (session.advanceTo (Span.ofMilliseconds 5)).map fun later =>
          (later.now, later.nextDeadline?))) =
      some (0, 1, some (Span.ofMilliseconds 5), some (Span.ofMilliseconds 5, none)) := by decide
  simp only [Option.map_eq_some_iff, Prod.mk.injEq] at course
  obtain ⟨session, played, now, pending, next, later, ends, reached, idle⟩ := course
  have reachable : session.Reachable := ⟨_, .perform (.bare 3) _ played⟩
  have early : session.now + Span.ofMilliseconds 10 ≤ Span.longest := by
    rw [now]
    decide
  have ran : session.runUntilIdle (Span.ofMilliseconds 10) = some (Span.ofMilliseconds 5, later) := by
    rw [runUntilIdle, Span.after?_eq_some_iff.2 ⟨early, rfl⟩]
    simp only [Option.bind_eq_bind, Option.bind_some]
    rw [settle_of_next next (by rw [now]; decide) ends (now.le.trans (Nat.zero_le _)) (by decide), settle,
      idle, Option.bind_some, now, reached, Nat.sub_zero]
  obtain ⟨rounds, -, -, answers⟩ := reachable.comes_to_rest early
  exact ⟨session, later, reachable, pending, early, ran, rounds, (answers _ later ran).2.2⟩

end Session

/-- Two waits in a row, the first of which is over at once. -/
def Act.brink : Act :=
  { Act.empty ⟨"act"⟩ "brink" .epoch with
    nodes := [⟨⟨"first"⟩, "first", .wait ⟨0⟩, .origin⟩, ⟨⟨"second"⟩, "second", .wait ⟨1⟩, .origin⟩]
    connections := [⟨⟨"edge"⟩, ⟨"first"⟩, ⟨"second"⟩, .default, none, none⟩] }

/-- At the last instant of the clock, no time is allowed to pass, and yet the second wait cannot begin. -/
theorem Session.breaks_off_brink :
    ∃ session : Session Universe, session.Reachable ∧ session.now + 0 ≤ Span.longest ∧
      session.runUntilIdle 0 = none := by
  let fresh : Session Universe := .bare 3
  have course : (do
      let begun ← fresh.perform (.advanceTo Span.longest)
      let session ← begun.perform (.play .brink)
      some (session.now, session.nextDeadline?, (session.advanceTo Span.longest).isSome)) =
      some (Span.longest, some Span.longest, false) := by decide
  simp only [Option.bind_eq_bind, Option.bind_eq_some_iff, Option.some.injEq, Prod.mk.injEq,
    Option.isSome_eq_false_iff, Option.isNone_iff_eq_none] at course
  obtain ⟨begun, passed, session, played, now, next, broken⟩ := course
  have reachable : session.Reachable := ⟨_, .perform (.perform (.bare 3) _ passed) _ played⟩
  refine ⟨session, reachable, now.le, ?_⟩
  have reach : Span.after? Span.longest 0 = some Span.longest := by decide
  have within : ¬(Span.longest < Span.longest ∨ Span.longest < session.now) := by omega
  rw [runUntilIdle, now, reach]
  simp only [Option.bind_eq_bind, Option.bind_some]
  rw [settle, next]
  simp only [if_neg within, broken, Option.bind_none]

end LightingDesk
