import LightingDesk.Proofs.Playback.Exhaustion
import LightingDesk.Proofs.Playback.Walk

/-!
What a host may rely on when it lets time pass. Each timer that is due is delivered once and at its
deadline, in the order of deadlines; a yield waits for the next window, and is delivered before the clock
moves: `Session.Reachable.delivers`.
-/

namespace LightingDesk

open TimerQueue

variable {ω : Type}

namespace Session

/-- The books of a window: which timers were pending when it was opened or armed since, and which of
them were delivered. -/
structure Books (window : Window) (session : Session ω) (deliveries : List (Delivery ω))
    (armed : List Timer) (middle : Session ω) : Prop where
  account : (session.stage.clock.pending ++ armed).Perm
    (deliveries.map Delivery.timer ++ middle.stage.clock.pending)
  fresh : armed.map Timer.handle = List.range' window.barrier armed.length
  arose : ∀ timer ∈ armed, ∃ delivery ∈ deliveries, delivery.Armed timer
  nextHandle : middle.stage.clock.nextHandle = window.barrier + armed.length
  since : session.now ≤ middle.now
  within : middle.now ≤ window.limit
  /-- The clock does not move while a yield is left that was pending when the window was opened. -/
  still : ∀ timer ∈ middle.stage.clock.pending, timer.yielded = true →
    timer.handle < window.barrier → middle.now = session.now

/-- What is promised of one delivery in a window. -/
structure Prompt (window : Window) (session : Session ω) (delivery : Delivery ω) : Prop where
  awaited : ∃ player wait, delivery.found.player? player.id = some player ∧
    player.waiting = some wait ∧ delivery.timer = player.timer wait ∧
    (wait.yielded = false → player.delay? = some wait.delay)
  isDue : delivery.timer.IsDue window
  least : ∀ other ∈ delivery.found.stage.clock.pending, other.IsDue window →
    delivery.timer.Before other
  onTime : delivery.timer.yielded = false → delivery.found.now = delivery.timer.deadline
  atOnce : delivery.timer.yielded = true →
    delivery.timer ∈ session.stage.clock.pending ∧ delivery.found.now = session.now
  since : session.now ≤ delivery.found.now
  within : delivery.found.now ≤ window.limit

namespace Books

variable {window : Window} {session middle reached : Session ω} {deliveries : List (Delivery ω)}
  {armed : List Timer} {timer : Timer} {clock : TimerQueue} {player later : Player} {wait : Wait}
  {log : List (Moment TimerQueue ω)}

theorem opened (barrier : window.barrier = session.stage.clock.nextHandle)
    (within : session.now ≤ window.limit) : Books window session [] [] session where
  account := by simp
  fresh := rfl
  arose := by simp
  nextHandle := barrier.symm
  since := le_rfl
  within := within
  still := fun _ _ _ _ => rfl

/-- A timer with a handle from before the window was pending when it was opened. -/
theorem old (books : Books window session deliveries armed middle)
    (pending : timer ∈ middle.stage.clock.pending) (early : timer.handle < window.barrier) :
    timer ∈ session.stage.clock.pending := by
  have known := books.account.mem_iff.2 (List.mem_append_right _ pending)
  refine (List.mem_append.1 known).resolve_right fun new => ?_
  have handle : timer.handle ∈ armed.map Timer.handle := List.mem_map_of_mem new
  rw [books.fresh, List.mem_range'_1] at handle
  exact absurd early (Nat.not_lt.2 handle.1)

variable [Output ω]

theorem prompt (books : Books window session deliveries armed middle)
    (beat : Beat window middle timer clock player wait later reached) :
    Prompt window session ⟨timer, middle.popped clock⟩ := by
  have pending : timer ∈ middle.stage.clock.pending :=
    beat.takes.perm.mem_iff.2 List.mem_cons_self
  have yielded : timer.yielded = wait.yielded := by rw [beat.timed, Player.timer]
  have now : (middle.popped clock).now = if timer.yielded then middle.now else timer.deadline :=
    yielded ▸ beat.now
  have later : (middle.popped clock).now = max middle.now timer.deadline := beat.takes.now
  constructor
  case awaited => exact ⟨player, wait, beat.found, beat.waiting, beat.timed, beat.minds.delayed⟩
  case isDue => exact beat.takes.isDue
  case least => exact beat.takes.least
  case onTime =>
    intro plain
    rw [now, plain]
    rfl
  case atOnce =>
    intro yields
    have early := beat.takes.isDue.early yields
    rw [now, if_pos yields, books.still timer pending yields early]
    exact ⟨books.old pending early, rfl⟩
  case since => exact later ▸ books.since.trans (le_max_left _ _)
  case within => exact later ▸ max_le books.within beat.takes.isDue.within

/-- An old yield that is left holds the clock back. -/
theorem still_next (books : Books window session deliveries armed middle)
    (timely : Timely middle log)
    (beat : Beat window middle timer clock player wait later reached)
    {other : Timer} (pending : other ∈ clock.pending) (yields : other.yielded = true)
    (early : other.handle < window.barrier) : reached.now = session.now := by
  have before : other ∈ middle.stage.clock.pending :=
    beat.takes.perm.mem_iff.2 (List.mem_cons_of_mem _ pending)
  have still := books.still other before yields early
  have overdue := timely.yield_deadline_le before yields
  have isDue : other.IsDue window :=
    ⟨overdue.trans books.within, by simp [Timer.mayFire, early]⟩
  have sooner := (beat.takes.least other pending isDue).deadline_le
  rw [beat.reached_now, beat.takes.now, ← still]
  exact max_eq_left (sooner.trans overdue)

theorem next (books : Books window session deliveries armed middle) (timely : Timely middle log)
    (beat : Beat window middle timer clock player wait later reached) :
    ∃ armed, Books window session (deliveries ++ [⟨timer, middle.popped clock⟩]) armed reached := by
  have since := books.since.trans beat.now_le
  have within := beat.reached_le books.within
  have taken : (session.stage.clock.pending ++ armed).Perm
      ((deliveries ++ [Delivery.mk timer (middle.popped clock)]).map Delivery.timer ++
        clock.pending) := by
    refine books.account.trans ?_
    rw [List.map_append, List.append_assoc]
    exact beat.takes.perm.append_left _
  have arose : ∀ other ∈ armed, ∃ delivery ∈ deliveries ++ [Delivery.mk timer (middle.popped clock)],
      delivery.Armed other := by
    intro other issued
    obtain ⟨delivery, member, arms⟩ := books.arose other issued
    exact ⟨delivery, List.mem_append_left _ member, arms⟩
  have handles : clock.nextHandle = window.barrier + armed.length :=
    beat.takes.nextHandle.trans books.nextHandle
  rcases beat.drove.arms with ⟨-, -, same⟩ | ⟨next, -, -, arms, armedAt, -, yielded⟩
  · refine ⟨armed, ?_, books.fresh, arose, ?_, since, within, ?_⟩
    · rw [same]
      exact taken
    · rw [same]
      exact handles
    · intro other pending yields early
      rw [same] at pending
      exact books.still_next timely beat pending yields early
  · have handle : (later.timer next).handle = window.barrier + armed.length :=
      arms.handle.trans handles
    have owner : (later.timer next).token.player = timer.token.player := by
      rw [beat.timed]
      exact beat.later_id
    refine ⟨armed ++ [later.timer next], ?_, ?_, ?_, ?_, since, within, ?_⟩
    · rw [← List.append_assoc]
      refine (taken.append_right _).trans ?_
      rw [List.append_assoc]
      refine List.Perm.append_left _ ?_
      exact List.perm_append_comm.trans arms.perm.symm
    · rw [List.map_append, books.fresh, List.length_append, List.map_singleton, handle,
        List.length_singleton, List.range'_1_concat]
    · intro other issued
      rcases List.mem_append.1 issued with earlier | now
      · exact arose other earlier
      · refine ⟨_, List.mem_append_right _ (List.mem_singleton_self _), ?_⟩
        rw [List.mem_singleton.1 now]
        exact ⟨owner, next.delay, congrArg (· + next.delay) armedAt, yielded⟩
    · rw [arms.nextHandle, List.length_append]
      exact congrArg (· + 1) handles
    · intro other pending yields early
      rcases List.mem_cons.1 (arms.perm.mem_iff.1 pending) with rfl | old
      · rw [handle] at early
        exact absurd early (Nat.not_lt.2 (Nat.le_add_right _ _))
      · exact books.still_next timely beat old yields early

omit [Output ω] in
/-- No two timers that were pending or were armed since have the same handle. -/
theorem nodup (books : Books window session deliveries armed middle)
    (sound : session.stage.clock.Sound)
    (barrier : window.barrier = session.stage.clock.nextHandle) :
    (session.stage.clock.pending ++ armed).Nodup := by
  refine List.Nodup.of_map Timer.handle ?_
  rw [List.map_append, books.fresh, List.nodup_append]
  refine ⟨sound.distinct, List.nodup_range', ?_⟩
  intro old pending new issued
  obtain ⟨timer, member, rfl⟩ := List.mem_map.1 pending
  have early := sound.issued timer member
  have late := (List.mem_range'_1.1 issued).1
  omega

omit [Output ω] in
/-- When nothing is due any more, the timers that were due are those that were delivered. -/
theorem count (books : Books window session deliveries armed middle)
    (nodup : (session.stage.clock.pending ++ armed).Nodup)
    (due : ∀ delivery ∈ deliveries, delivery.timer.IsDue window)
    (exhausted : ∀ timer ∈ middle.stage.clock.pending, ¬timer.IsDue window)
    (known : timer ∈ session.stage.clock.pending ++ armed) :
    (timer.IsDue window → (deliveries.map Delivery.timer).count timer = 1) ∧
      (¬timer.IsDue window → (deliveries.map Delivery.timer).count timer = 0) := by
  have once := (books.account.nodup_iff.1 nodup).of_append_left
  constructor
  · intro isDue
    have member := (List.mem_append.1 (books.account.mem_iff.1 known)).resolve_right
      fun left => exhausted timer left isDue
    exact List.count_eq_one_of_mem once member
  · intro notDue
    refine List.count_eq_zero.2 fun member => ?_
    obtain ⟨delivery, listed, rfl⟩ := List.mem_map.1 member
    exact notDue (due delivery listed)

omit [Output ω] in
theorem mem_left (books : Books window session deliveries armed middle)
    (nodup : (session.stage.clock.pending ++ armed).Nodup) (timer : Timer) :
    timer ∈ middle.stage.clock.pending ↔
      timer ∈ session.stage.clock.pending ++ armed ∧ timer ∉ deliveries.map Delivery.timer := by
  have apart := (List.nodup_append.1 (books.account.nodup_iff.1 nodup)).2.2
  constructor
  · intro left
    exact ⟨books.account.mem_iff.2 (List.mem_append_right _ left),
      fun delivered => apart timer delivered timer left rfl⟩
  · rintro ⟨known, waits⟩
    exact (List.mem_append.1 (books.account.mem_iff.1 known)).resolve_left waits

end Books

variable [Output ω]

/-- What is promised of a window. `armed` are the timers that were armed while it was open; their
handles are all that were issued. -/
structure Delivers (window : Window) (session : Session ω) (deliveries : List (Delivery ω))
    (armed : List Timer) (last : Session ω) : Prop where
  fires : Fires window session deliveries last
  fresh : armed.map Timer.handle =
    List.range' window.barrier (last.stage.clock.nextHandle - window.barrier)
  arose : ∀ timer ∈ armed, ∃ delivery ∈ deliveries, delivery.Armed timer
  known : ∀ delivery ∈ deliveries, delivery.timer ∈ session.stage.clock.pending ++ armed
  timed : ∀ timer ∈ session.stage.clock.pending ++ armed, timer.yielded = false →
    (deliveries.map Delivery.timer).count timer = if timer.deadline ≤ window.limit then 1 else 0
  yields : ∀ timer ∈ session.stage.clock.pending, timer.yielded = true →
    (deliveries.map Delivery.timer).count timer = 1
  withheld : ∀ timer ∈ armed, timer.yielded = true →
    (deliveries.map Delivery.timer).count timer = 0
  prompt : ∀ delivery ∈ deliveries, Prompt window session delivery
  forward : (deliveries.map fun delivery => delivery.found.now).Pairwise (· ≤ ·)
  left : ∀ timer, timer ∈ last.stage.clock.pending ↔
    timer ∈ session.stage.clock.pending ++ armed ∧ timer ∉ deliveries.map Delivery.timer
  rest : ∀ timer ∈ last.stage.clock.pending,
    window.limit < timer.deadline ∨ timer ∈ armed ∧ timer.yielded = true
  since : session.now ≤ last.now
  within : last.now ≤ window.limit

variable {session later : Session ω} {log : List (Moment TimerQueue ω)} {window : Window}

/-- The books are kept throughout a window, and each delivery is as promised. -/
theorem Timely.books (timely : Timely session log)
    (barrier : window.barrier = session.stage.clock.nextHandle) (within : session.now ≤ window.limit)
    {deliveries : List (Delivery ω)} {middle : Session ω}
    (fires : Fires window session deliveries middle) :
    (∃ armed, Books window session deliveries armed middle) ∧
      (∀ delivery ∈ deliveries, Prompt window session delivery) ∧
      (deliveries.map fun delivery => delivery.found.now).Pairwise (· ≤ ·) := by
  have kept := fires.rule
    (I := fun deliveries middle => (∃ armed, Books window session deliveries armed middle) ∧
      (∀ delivery ∈ deliveries, Prompt window session delivery) ∧
      (∀ delivery ∈ deliveries, delivery.found.now ≤ middle.now) ∧
      (deliveries.map fun delivery => delivery.found.now).Pairwise (· ≤ ·))
    timely ⟨⟨[], .opened barrier within⟩, by simp, by simp, by simp⟩ ?_
  · obtain ⟨-, books, prompt, -, forward⟩ := kept
    exact ⟨books, prompt, forward⟩
  · rintro deliveries middle timer clock player wait later reached log
      ⟨⟨armed, books⟩, prompt, past, forward⟩ timely beat
    refine ⟨books.next timely beat, ?_, ?_, ?_⟩
    · intro delivery member
      rcases List.mem_append.1 member with earlier | now
      · exact prompt delivery earlier
      · exact List.mem_singleton.1 now ▸ books.prompt beat
    · intro delivery member
      rcases List.mem_append.1 member with earlier | now
      · exact (past delivery earlier).trans beat.now_le
      · rw [List.mem_singleton.1 now]
        exact beat.reached_now.ge
    · rw [List.map_append, List.pairwise_append]
      refine ⟨forward, List.pairwise_singleton _ _, ?_⟩
      intro earlier listed now member
      obtain ⟨delivery, delivered, rfl⟩ := List.mem_map.1 listed
      rw [List.map_singleton, List.mem_singleton] at member
      rw [member]
      exact (past delivery delivered).trans (beat.now_le.trans beat.reached_now.le)

theorem Timely.drained (timely : Timely session log)
    (barrier : window.barrier = session.stage.clock.nextHandle) (within : session.now ≤ window.limit)
    (answer : session.fireWindow window = some later) :
    ∃ deliveries armed last, Delivers window session deliveries armed last ∧
      later = last.closed window := by
  obtain ⟨deliveries, last, fires, exhausted, rfl, -⟩ := timely.fired barrier answer
  obtain ⟨⟨armed, books⟩, prompt, forward⟩ := timely.books barrier within fires
  have nodup := books.nodup timely.sound barrier
  have left := (fires.timely timely within).1.ordered.exhausted exhausted
  have count {timer : Timer} (known : timer ∈ session.stage.clock.pending ++ armed) :=
    books.count nodup (fun delivery member => (prompt delivery member).isDue) left known
  have old : ∀ timer ∈ session.stage.clock.pending, timer.yielded = true → timer.IsDue window := by
    intro timer pending yields
    have early := timely.sound.issued timer pending
    rw [← barrier] at early
    exact ⟨(timely.yield_deadline_le pending yields).trans within, by simp [Timer.mayFire, early]⟩
  have new : ∀ timer ∈ armed, timer.yielded = true → ¬timer.IsDue window := by
    intro timer issued yields isDue
    have handle : timer.handle ∈ armed.map Timer.handle := List.mem_map_of_mem issued
    rw [books.fresh, List.mem_range'_1] at handle
    exact absurd (isDue.early yields) (Nat.not_lt.2 handle.1)
  refine ⟨deliveries, armed, last, ?_, rfl⟩
  constructor
  case fires => exact fires
  case fresh => rw [books.fresh, books.nextHandle, Nat.add_sub_cancel_left]
  case arose => exact books.arose
  case known =>
    intro delivery member
    exact books.account.mem_iff.2 (List.mem_append_left _ (List.mem_map_of_mem member))
  case timed =>
    intro timer known plain
    split
    next within => exact (count known).1 (.of_plain plain within)
    next beyond => exact (count known).2 fun isDue => beyond isDue.within
  case yields =>
    intro timer pending yields
    exact (count (List.mem_append_left _ pending)).1 (old timer pending yields)
  case withheld =>
    intro timer issued yields
    exact (count (List.mem_append_right _ issued)).2 (new timer issued yields)
  case prompt => exact prompt
  case forward => exact forward
  case left => exact books.mem_left nodup
  case since => exact books.since
  case within => exact books.within
  case rest =>
    intro timer pending
    have notDue := left timer pending
    have known := books.account.mem_iff.2 (List.mem_append_right _ pending)
    cases yields : timer.yielded with
    | false => exact .inl (Nat.lt_of_not_le fun within => notDue (.of_plain yields within))
    | true =>
      rcases List.mem_append.1 known with earlier | issued
      · exact absurd (old timer earlier yields) notDue
      · exact .inr ⟨issued, rfl⟩

/-- Whatever the steps in which a host lets time pass: a delay is over exactly when it should be. In a
window, timers are delivered once each, at their deadlines and in order, if they were pending or have
been armed in it and are due by its end; yields are delivered before the clock moves, or in a later
window. Then the clock stands at the end of the window. -/
theorem Reachable.delivers {session later : Session ω} (reachable : session.Reachable) {target : Nat}
    {request : Request ω} (asked : session.until? request = some target)
    (answer : session.perform request = some later) :
    ∃ deliveries armed last,
      Delivers (session.stage.clock.windowTo target) session deliveries armed last ∧
      later.now = max target session.now ∧
      later.stage.clock.pending = last.stage.clock.pending := by
  obtain ⟨log, run⟩ := reachable
  obtain ⟨deliveries, armed, last, delivers, rfl⟩ :=
    run.timely.drained rfl (le_max_right _ _) (fireWindow_of_until? asked answer).1
  exact ⟨deliveries, armed, last, delivers, max_eq_right delivers.within, rfl⟩

/-- A wait of five milliseconds, in a window of ten. -/
theorem delivers_relay :
    ∃ session later : Session Universe, session.Reachable ∧
      session.perform (.advance (Span.ofMilliseconds 10)) = some later ∧
      ∃ timer deliveries armed last, session.stage.clock.pending = [timer] ∧
        timer.deadline = Span.ofMilliseconds 5 ∧
        Delivers (session.stage.clock.windowTo (Span.ofMilliseconds 10)) session deliveries armed
          last ∧
        (deliveries.map Delivery.timer).count timer = 1 := by
  have course : ((Session.bare 3).perform (.play .relay)).map
      (fun session => (session.stage.clock.pending, session.now,
        (session.perform (.advance (Span.ofMilliseconds 10))).isSome)) =
      some ([⟨Span.ofMilliseconds 5, 0, ⟨⟨1⟩, 1⟩, false⟩], 0, true) := by decide
  obtain ⟨session, played, stands⟩ := Option.map_eq_some_iff.1 course
  simp only [Prod.mk.injEq] at stands
  obtain ⟨pending, now, advances⟩ := stands
  obtain ⟨later, answer⟩ := Option.isSome_iff_exists.1 advances
  have asked : session.until? (.advance (Span.ofMilliseconds 10)) =
      some (Span.ofMilliseconds 10) := by
    rw [until?, now, Nat.zero_add]
  have reachable : session.Reachable := ⟨_, .perform (.bare 3) _ played⟩
  obtain ⟨deliveries, armed, last, delivers, -⟩ := reachable.delivers asked answer
  have due : Span.ofMilliseconds 5 ≤ (session.stage.clock.windowTo (Span.ofMilliseconds 10)).limit :=
    (by decide : Span.ofMilliseconds 5 ≤ Span.ofMilliseconds 10).trans (le_max_left _ _)
  have once := delivers.timed ⟨Span.ofMilliseconds 5, 0, ⟨⟨1⟩, 1⟩, false⟩ (by simp [pending]) rfl
  rw [if_pos due] at once
  exact ⟨session, later, reachable, answer, _, deliveries, armed, last, pending, rfl, delivers, once⟩

end Session

end LightingDesk
