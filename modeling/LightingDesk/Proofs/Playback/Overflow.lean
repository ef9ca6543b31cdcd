import LightingDesk.Proofs.Playback.Exhaustion

/-!
What has no answer. A call breaks off only where a node asks for a delay that would end after the last
instant of the clock, so a session answers as long as the delays of its acts leave room:
`Session.Timely.fireWindow_isSome`.
-/

namespace LightingDesk

namespace Player

section Steps

variable {σ ω : Type} [Scheduler σ]

/-- A delay that cannot be scheduled. -/
theorem arm_eq_none {player moved : Player} {stage shown : Stage σ ω} {delay : Nat} {resume : Step}
    {curve : Option Curve} (failed : pause (moved.arm shown delay resume curve) = none)
    (token : moved.token = player.token) (clock : shown.clock = stage.clock) :
    Scheduler.schedule stage.clock delay player.token = none := by
  unfold pause arm at failed
  rw [token, clock] at failed
  cases scheduled : Scheduler.schedule stage.clock delay player.token with
  | none => rfl
  | some pair => simp [scheduled] at failed

theorem armYield_eq_none {player : Player} {stage : Stage σ ω} {resume : Step}
    (failed : player.armYield stage resume = none) :
    Scheduler.scheduleYield stage.clock player.token = none := by
  unfold armYield at failed
  cases scheduled : Scheduler.scheduleYield stage.clock player.token with
  | none => rfl
  | some pair => simp [scheduled] at failed

theorem follow_isSome (player : Player) (stage : Stage σ ω) (done : NodeId) (route : Route) :
    (player.follow stage done route).isSome = true := by
  unfold follow
  split
  next => rfl
  next =>
    split
    next => rfl
    next =>
      split
      next => rfl
      next => rfl

theorem trackerStep_isSome (player : Player) (stage : Stage σ ω) (id : NodeId) :
    (player.trackerStep stage id).isSome = true := by
  unfold trackerStep
  split
  next =>
    split
    next => rfl
    next =>
      split
      next => rfl
      next =>
        split
        next => rfl
        next => rfl
  next => rfl

variable [Output ω]

theorem enter_eq_none {player : Player} {stage : Stage σ ω} {id : NodeId}
    (failed : player.enter stage id = none) :
    ∃ delay, player.act.delay? id = some delay ∧
      Scheduler.schedule stage.clock delay player.token = none := by
  unfold enter at failed
  cases found : player.act.node? id with
  | none => simp [found, pause] at failed
  | some node =>
    simp only [found] at failed
    cases kind : node.kind with
    | wait payload =>
      simp only [kind] at failed
      exact ⟨delayOf payload.durationMs, by simp [Act.delay?, found, kind, NodeKind.delay?],
        arm_eq_none failed rfl rfl⟩
    | transition payload =>
      simp only [kind] at failed
      exact ⟨delayOf payload.durationMs, by simp [Act.delay?, found, kind, NodeKind.delay?],
        arm_eq_none failed rfl rfl⟩
    | scene payload => simp [kind, goOn] at failed
    | condition payload => simp [kind, goOn] at failed
    | tracker payload => simp [kind, goOn] at failed

omit [Output ω] in
theorem childDone_eq_none {player : Player} {stage : Stage σ ω} {id : NodeId}
    (failed : player.childDone stage id = none) :
    ∃ delay, player.act.delay? id = some delay ∧
      Scheduler.schedule stage.clock delay player.token = none := by
  unfold childDone at failed
  split at failed
  next payload kind =>
    split at failed
    next => simp [goOn] at failed
    next =>
      dsimp only at failed
      split at failed
      next => simp [goOn] at failed
      next =>
        obtain ⟨node, found, kind⟩ := Option.map_eq_some_iff.1 kind
        exact ⟨Span.ofMilliseconds payload.stepDelayMs.toNat,
          by simp [Act.delay?, found, kind, NodeKind.delay?], arm_eq_none failed rfl rfl⟩
  next => simp [goOn] at failed

omit [Output ω] in
theorem complete_eq_none {player : Player} {stage : Stage σ ω} {route : Route}
    (failed : player.complete stage route = none) :
    ∃ node delay, player.act.delay? node = some delay ∧
      Scheduler.schedule stage.clock delay player.token = none := by
  unfold complete at failed
  split at failed
  next => simp [pause] at failed
  next done below frames =>
    cases below with
    | nil =>
      have answered := follow_isSome { player with frames := [] } stage done route
      simp only [failed] at answered
      cases answered
    | cons parent rest =>
      have broken : { player with frames := parent :: rest }.childDone stage parent = none := failed
      obtain ⟨delay, asks, unscheduled⟩ := childDone_eq_none broken
      exact ⟨parent, delay, asks, unscheduled⟩

/-- A step has no answer only if the clock has no instant for a delay of the act. -/
theorem execute_eq_none {player : Player} {stage : Stage σ ω} {step : Step}
    (failed : player.execute stage step = none) :
    ∃ node delay, player.act.delay? node = some delay ∧
      Scheduler.schedule stage.clock delay player.token = none := by
  cases step with
  | enter id => exact ⟨id, enter_eq_none failed⟩
  | complete route => exact complete_eq_none failed
  | trackerStep id =>
    have answered := player.trackerStep_isSome stage id
    rw [show player.trackerStep stage id = none from failed] at answered
    cases answered

end Steps

end Player

/-- Some delay of the act would end after the last instant of the clock. -/
def Act.Overruns (act : Act) (now : Nat) : Prop :=
  ∃ node delay, act.delay? node = some delay ∧ Span.longest < now + delay

theorem Act.Overruns.mono {act : Act} {now later : Nat} (overruns : act.Overruns now)
    (past : now ≤ later) : act.Overruns later := by
  obtain ⟨node, delay, asks, beyond⟩ := overruns
  exact ⟨node, delay, asks, Nat.lt_of_lt_of_le beyond (Nat.add_le_add_right past delay)⟩

theorem Act.not_overruns {act : Act} {now : Nat}
    (room : ∀ node ∈ act.nodes, ∀ delay ∈ node.kind.delay?, now + delay ≤ Span.longest) :
    ¬act.Overruns now := by
  rintro ⟨id, delay, asks, beyond⟩
  obtain ⟨node, found, waits⟩ := Option.bind_eq_some_iff.1 asks
  exact Nat.not_le.2 beyond (room node (List.mem_of_find?_eq_some found) delay waits)

theorem TimerQueue.arm?_eq_none {queue : TimerQueue} {delay : Nat} {token : Token} {yielded : Bool}
    (failed : queue.arm? delay token yielded = none) : Span.longest < queue.now + delay := by
  rw [arm?, Option.map_eq_none_iff, Span.after?] at failed
  split at failed
  next => simp at failed
  next beyond => exact Nat.lt_of_not_le beyond

section Calls

variable {ω : Type} [Output ω] {id : PlayerId} {act : Act} {token : Token}
  {past log : List (Moment TimerQueue ω)} {player : Player} {stage : Stage TimerQueue ω} {step : Step}

theorem Underway.drive_eq_none {fresh : Bool} (underway : Underway act token past player step)
    (early : stage.clock.now ≤ Span.longest) (failed : player.drive stage step fresh = none) :
    act.Overruns stage.clock.now := by
  have begins := underway.burst stage fresh
  obtain ⟨taken, last, shown, due, midway, broken | broken⟩ := Player.run_none_rule
    (P := (player.burst stage fresh).Midway stage step)
    (fun midway executed => midway.goes executed) (begins.midway stage) failed
  · obtain ⟨node, delay, asks, unscheduled⟩ := Player.execute_eq_none broken
    have plays : last.counted.act = act := midway.act.trans begins.plays
    rw [midway.clock] at unscheduled
    exact ⟨node, delay, plays ▸ asks, TimerQueue.arm?_eq_none unscheduled⟩
  · have unscheduled := Player.armYield_eq_none broken
    rw [midway.clock] at unscheduled
    exact absurd (TimerQueue.arm?_eq_none unscheduled) (Nat.not_lt.2 early)

theorem Chronicle.start_eq_none (chronicle : Chronicle id act player log)
    (early : stage.clock.now ≤ Span.longest) (failed : player.start stage = none) :
    act.Overruns stage.clock.now := by
  rw [Player.start_eq] at failed
  cases found : (player.stop stage).1.act.startId? with
  | none => simp [found] at failed
  | some node =>
    simp only [found, Option.map_eq_none_iff] at failed
    have underway := chronicle.restarts stage (player.stop_act stage ▸ found)
    rw [← player.stop_now stage] at early ⊢
    exact underway.drive_eq_none early failed

theorem Chronicle.timer_eq_none {token : Token} (chronicle : Chronicle id act player log)
    (early : stage.clock.now ≤ Span.longest) (failed : player.onTimer stage token = none) :
    act.Overruns stage.clock.now := by
  unfold Player.onTimer at failed
  split at failed
  next => simp at failed
  next current =>
    split at failed
    next => simp at failed
    next wait waiting =>
      have playing : player.playing = true := by
        by_contra idle
        exact current (by simp [idle])
      exact (chronicle.resumes playing waiting).drive_eq_none early failed

end Calls

namespace Session

variable {ω : Type} [Output ω] {session : Session ω} {log : List (Moment TimerQueue ω)}

theorem Timely.start_isSome (timely : Timely session log) (id : PlayerId)
    (early : session.now ≤ Span.longest)
    (room : ∀ player ∈ session.players, ¬player.act.Overruns session.now) :
    (session.start id).isSome = true := by
  unfold Session.start
  split
  next => rfl
  next player found =>
    rw [Option.isSome_map]
    by_contra broken
    obtain ⟨act, life⟩ := timely.life found
    have overruns := life.chronicle.start_eq_none early (Option.not_isSome_iff_eq_none.1 broken)
    rw [← life.chronicle.plays] at overruns
    exact room player (mem_of_player? found) overruns

/-- A window breaks off: one of its timers is delivered to a player whose act asks for a delay that would
end after the last instant. -/
def BreaksOff (window : Window) (session : Session ω) : Prop :=
  ∃ deliveries middle timer clock player, Fires window session deliveries middle ∧
    middle.stage.clock.take? window = some (timer, clock) ∧
    (middle.popped clock).deliver timer.token = none ∧
    middle.player? timer.token.player = some player ∧ player.act.Overruns clock.now

theorem Timely.breaksOff {window : Window} (timely : Timely session log)
    (within : session.now ≤ window.limit) (early : window.limit ≤ Span.longest)
    (failed : session.fireWindow window = none) : session.BreaksOff window := by
  unfold fireWindow at failed
  obtain ⟨deliveries, last, timer, clock, fires, taken, undelivered⟩ :=
    Fires.opened.fire_none (Option.map_eq_none_iff.1 failed)
  rw [List.nil_append] at fires
  obtain ⟨timely, -, near⟩ := fires.timely timely within
  have takes := timely.ordered.takes taken
  have reached : clock.now ≤ window.limit := takes.now ▸ max_le near takes.isDue.within
  obtain ⟨player, wait, found, -, -, timed, -⟩ :=
    timely.owner (takes.perm.mem_iff.2 List.mem_cons_self)
  have popped : (last.popped clock).player? timer.token.player = some player := by
    rw [timed]
    exact found
  refine ⟨deliveries, last, timer, clock, player, fires, taken, undelivered, popped, ?_⟩
  rw [deliver_of_player? popped, Option.map_eq_none_iff] at undelivered
  obtain ⟨act, life⟩ := timely.life found
  rw [life.chronicle.plays]
  exact life.chronicle.timer_eq_none (reached.trans early) undelivered

/-- A window that breaks off does so over an act of the session that leaves no room. -/
theorem BreaksOff.overruns {window : Window} (broken : session.BreaksOff window)
    (timely : Timely session log) (within : session.now ≤ window.limit) :
    ∃ player ∈ session.players, player.act.Overruns window.limit := by
  obtain ⟨deliveries, last, timer, clock, player, fires, taken, -, found, overruns⟩ := broken
  have kept := fires.rule
    (I := fun _ middle => middle.now ≤ window.limit ∧
      ∀ player ∈ middle.players, ∃ other ∈ session.players, other.act = player.act)
    timely ⟨within, fun player member => ⟨player, member, rfl⟩⟩ ?_
  · obtain ⟨timely, near, acts⟩ := kept
    have takes := timely.ordered.takes taken
    have reached : clock.now ≤ window.limit := takes.now ▸ max_le near takes.isDue.within
    obtain ⟨other, member, same⟩ := acts player (mem_of_player? found)
    exact ⟨other, member, same ▸ overruns.mono reached⟩
  · rintro deliveries middle timer clock player wait later reached log ⟨near, acts⟩ timely beat
    refine ⟨beat.reached_le near, ?_⟩
    intro other member
    rw [beat.replaced] at member
    rcases mem_replace member with rfl | ⟨listed, -⟩
    · rw [beat.drove.act, player.resumed_act]
      exact acts player (mem_of_player? beat.found)
    · exact acts other listed

theorem Timely.fireWindow_isSome {window : Window} (timely : Timely session log)
    (within : session.now ≤ window.limit) (early : window.limit ≤ Span.longest)
    (room : ∀ player ∈ session.players, ¬player.act.Overruns window.limit) :
    (session.fireWindow window).isSome = true := by
  by_contra broken
  have breaks := timely.breaksOff within early (Option.not_isSome_iff_eq_none.1 broken)
  obtain ⟨player, member, overruns⟩ := breaks.overruns timely within
  exact room player member overruns

end Session

end LightingDesk
