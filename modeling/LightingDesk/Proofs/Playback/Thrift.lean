import LightingDesk.Proofs.Playback.Journey
import LightingDesk.Proofs.Playback.Slices

/-!
A session of one player, with two budgets. Left to itself until it is idle, it goes on along the way of
its player from deadline to deadline (`Session.Travels.settle`), and a yield only puts the next step
into a later window. So the budget is not to be seen in what comes of it, which is the main result,
`Session.Reachable.runUntilIdle_budgeted`.
-/

namespace LightingDesk

open Relation TimerQueue

namespace Player

/-- The player with another budget. -/
def budgeted (player : Player) (steps : UInt64) : Player :=
  { player with settings := { player.settings with maxSyncSteps := steps } }

variable {ω : Type} {player : Player} {stage : Stage TimerQueue ω}

/-- Where a start leads to first. -/
def opening (player : Player) (stage : Stage TimerQueue ω) : Journey ω :=
  match player.act.startId? with
  | none => (player.stop stage).1.journey ((player.stop stage).2.emit
      (.stopped player.id player.act.id (.fault .emptyGraph))) .never
  | some node => ((player.stop stage).1.begun (player.stop stage).2).journey (player.stop stage).2
      (.now (.enter node))

theorem opening_budgeted (player : Player) (stage : Stage TimerQueue ω) (steps : UInt64) :
    (player.budgeted steps).opening stage = player.opening stage := by
  have stops : (player.budgeted steps).stop stage =
      ((player.stop stage).1.budgeted steps, (player.stop stage).2) := by
    unfold stop
    split
    next playing =>
      rw [if_pos (show player.playing = true from playing)]
      rfl
    next idle => rw [if_neg (show ¬player.playing = true from idle)]
  unfold opening
  rw [stops]
  rfl

variable [Output ω]

/-- What a start says. -/
def verdict (player : Player) : Except Fault Unit :=
  if player.act.startId?.isSome then .ok () else .error .emptyGraph

theorem start_leads (free : (player.stop stage).1.waiting = none)
    (early : stage.clock.now ≤ Span.longest) (last : Nat) :
    (player.opening stage).Leads last ((player.start stage).map Prod.snd) := by
  rw [start_eq, player.stop_act, player.stop_id]
  unfold opening
  cases found : player.act.startId? with
  | none =>
    have never : (player.stop stage).1.due = .never := by rw [due, free]
    rw [Option.map_some, Journey.Leads, never]
  | some node =>
    have leads := drive_leads ((player.stop stage).1.begun (player.stop stage).2) free
      ((player.stop_now stage).trans_le early) last (.enter node) true
    rw [Option.map_map]
    simpa [Function.comp_def] using leads

/-- Time passes up to the end of a wait. -/
theorem way_of_minds {wait : Wait} {clock : TimerQueue} {last : Nat} (waiting : player.waiting = some wait)
    (minds : player.Minds wait stage.clock) (past : player.burstAt ≤ stage.clock.now)
    (now : clock.now = max stage.clock.now (player.timer wait).deadline) (within : clock.now ≤ last) :
    ReflTransGen (Journey.Goes last) (player.journey stage player.due)
      ({ player with waiting := none }.journey (stage.withClock clock) (.now wait.resume)) := by
  rw [minds.popped_now past] at now
  have reached : { player with waiting := none }.journey (stage.withClock clock) (.now wait.resume) =
      ⟨player.bare, stage.frozen clock.now, .now wait.resume⟩ := rfl
  rw [reached, due, waiting]
  simp only [Wait.due]
  cases yielded : wait.yielded with
  | true =>
    rw [yielded, if_pos rfl] at now
    rw [now]
    exact .refl
  | false =>
    rw [yielded, if_neg Bool.false_ne_true] at now
    rw [now] at within ⊢
    have resumes : Journey.Goes last
        ⟨player.bare, stage.frozen stage.clock.now, .at (player.timer wait).deadline wait.resume⟩
        ⟨player.bare, stage.frozen (player.timer wait).deadline, .now wait.resume⟩ := .resume within
    exact .single resumes

end Player

namespace Session

variable {ω : Type} [Output ω]

/-- The session with another budget. -/
def budgeted (session : Session ω) (steps : UInt64) : Session ω :=
  { session with
    settings := { session.settings with maxSyncSteps := steps }
    players := session.players.map fun player => player.budgeted steps }

/-- The only player of the session has come along the way from a journey. -/
structure Travels (last : Nat) (first : Journey ω) (session : Session ω) : Prop where
  timely : ∃ log, Timely session log
  within : session.now ≤ last
  way : ∃ player, session.players = [player] ∧
    ReflTransGen (Journey.Goes last) first (player.journey session.stage player.due)

/-- The session has come along the way, or has no answer because the way breaks off. -/
def Leads (last : Nat) (first : Journey ω) : Option (Session ω) → Prop
  | some later => later.Travels last first
  | none => first.Breaks last

variable {session middle later : Session ω} {window : Window} {last deadline : Nat} {first : Journey ω}
  {player : Player} {timer : Timer} {clock : TimerQueue} {log : List (Moment TimerQueue ω)}
  {deliveries : List (Delivery ω)}

omit [Output ω] in
theorem replace_alone {later : Player} (alone : session.players = [player]) (same : later.id = player.id)
    (stage : Stage TimerQueue ω) : (session.replace later stage).players = [later] := by
  simp [replace, alone, same]

omit [Output ω] in
theorem eq_of_player? {other : Player} {id : PlayerId} (alone : session.players = [player])
    (found : session.player? id = some other) : other = player :=
  List.mem_singleton.1 (alone ▸ mem_of_player? found)

theorem Timely.nextDeadline_le (timely : Timely session log) (next : session.nextDeadline? = some deadline)
    (armed : timer ∈ session.stage.clock.pending) : deadline ≤ timer.deadline := by
  by_contra sooner
  have quiet : session.QuietUntil timer.deadline := by
    intro other same
    rw [← Option.some.inj (next.symm.trans same)]
    exact Nat.lt_of_not_le sooner
  exact Nat.lt_irrefl _ (timely.lt_of_quiet quiet armed)

theorem Timely.start_keeps {result : Except Fault Unit} {later : Player} {stage : Stage TimerQueue ω}
    (timely : Timely session log) (found : session.player? player.id = some player)
    (answer : player.start session.stage = some (result, later, stage)) :
    result = player.verdict ∧ later.id = player.id ∧ stage.clock.now = session.now := by
  obtain ⟨act, life⟩ := timely.life found
  unfold Player.verdict
  rw [life.chronicle.plays]
  rcases life.chronicle.start_drove answer with
    ⟨absent, rfl, rfl, rfl, -⟩ | ⟨node, present, rfl, drove⟩
  · exact ⟨by simp [absent], player.stop_id _, player.stop_now _⟩
  · exact ⟨by simp [present], drove.id.trans (player.restarted_id _),
      drove.now.trans (player.stop_now _)⟩

theorem Timely.started (timely : Timely session log) (alone : session.players = [player])
    {result : Except SessionError Unit} (started : session.start player.id = some (result, later)) :
    result = player.verdict.mapError .act ∧ later.now = session.now := by
  have found : session.player? player.id = some player := by simp [player?, alone]
  simp only [Session.start, found, Option.map_eq_some_iff, Prod.mk.injEq] at started
  obtain ⟨⟨answer, moved, stage⟩, start, rfl, rfl⟩ := started
  obtain ⟨rfl, -, now⟩ := timely.start_keeps found start
  exact ⟨rfl, now⟩

theorem Timely.start_leads (timely : Timely session log) (alone : session.players = [player])
    (within : session.now ≤ last) (early : last ≤ Span.longest) :
    Leads last (player.opening session.stage) ((session.start player.id).map Prod.snd) := by
  have found : session.player? player.id = some player := by simp [player?, alone]
  have leads := Player.start_leads (timely.stop_free found) (within.trans early) last
  unfold Session.start
  simp only [found, Option.map_map]
  cases answer : player.start session.stage with
  | none =>
    rw [answer] at leads
    exact leads
  | some turn =>
    obtain ⟨result, later, stage⟩ := turn
    rw [answer] at leads
    obtain ⟨-, named, now⟩ := timely.start_keeps found answer
    exact ⟨⟨_, timely.start found answer⟩, now.trans_le within, later,
      replace_alone alone named stage, leads⟩

namespace Travels

theorem deliver (travels : session.Travels last first)
    (taken : session.stage.clock.take? window = some (timer, clock)) (within : session.now ≤ window.limit)
    (sooner : window.limit ≤ last) (early : last ≤ Span.longest) :
    Leads last first ((session.popped clock).deliver timer.token) := by
  obtain ⟨⟨log, timely⟩, -, player, alone, came⟩ := travels
  have takes := timely.ordered.takes taken
  have reached : clock.now ≤ last := (takes.now.trans_le (max_le within takes.isDue.within)).trans sooner
  obtain ⟨owner, wait, found, playing, waiting, timed, minds⟩ :=
    timely.owner (takes.perm.mem_iff.2 List.mem_cons_self)
  obtain rfl := eq_of_player? alone found
  have way := Player.way_of_minds waiting minds (timely.paced owner (mem_of_player? found)).past
    (timed ▸ takes.now) reached
  have leads : Journey.Leads last _
      ({ owner with waiting := none }.drive (session.popped clock).stage wait.resume wait.yielded) :=
    Player.drive_leads _ rfl (reached.trans early) last wait.resume wait.yielded
  have drives : owner.onTimer (session.popped clock).stage owner.token =
      { owner with waiting := none }.drive (session.popped clock).stage wait.resume wait.yielded := by
    simp [Player.onTimer, playing, waiting]
  rw [← drives] at leads
  have onward := leads.of_way (came.trans way)
  cases delivered : (session.popped clock).deliver timer.token with
  | none =>
    have popped : (session.popped clock).player? owner.token.player = some owner := found
    have token : timer.token = owner.token := congrArg Timer.token timed
    rw [token, deliver_of_player? popped, Option.map_eq_none_iff] at delivered
    rw [delivered] at onward
    exact onward
  | some later =>
    obtain ⟨again, _, moved, beat⟩ := timely.beat taken delivered
    obtain rfl := eq_of_player? alone beat.found
    rw [beat.answer] at onward
    refine ⟨⟨_, timely.delivered taken delivered⟩, beat.reached_now.trans_le reached, moved, ?_,
      onward⟩
    rw [beat.replaced]
    exact replace_alone alone beat.later_id later.stage

/-- In a window up to the next deadline, the clock moves with the first delivery only. -/
theorem fires (travels : session.Travels last first) (next : session.nextDeadline? = some deadline)
    (near : max deadline session.now ≤ last) (early : last ≤ Span.longest)
    (fires : Fires (session.stage.clock.windowTo deadline) session deliveries middle) :
    middle.Travels last first ∧ (middle = session ∨ middle.now = max deadline session.now) := by
  obtain ⟨log, timely⟩ := travels.timely
  induction fires with
  | opened => exact ⟨travels, .inl rfl⟩
  | @delivered deliveries middle timer clock reached before taken delivery ih =>
    obtain ⟨travels, stands⟩ := ih
    obtain ⟨timelyMiddle, -, within⟩ := before.timely timely (le_max_right _ _)
    obtain ⟨player, wait, later, beat⟩ := timelyMiddle.beat taken delivery
    have leads := travels.deliver taken within near early
    rw [delivery] at leads
    refine ⟨leads, .inr (le_antisymm (beat.reached_le within) ?_)⟩
    rcases stands with rfl | stands
    · have ahead := timely.nextDeadline_le next (beat.takes.perm.mem_iff.2 List.mem_cons_self)
      rw [beat.reached_now, beat.takes.now]
      exact max_le (ahead.trans (le_max_right _ _)) (le_max_left _ _)
    · exact stands.ge.trans beat.now_le

theorem advanceTo (travels : session.Travels last first) (next : session.nextDeadline? = some deadline)
    (near : max deadline session.now ≤ last) (early : last ≤ Span.longest) :
    Leads last first (session.advanceTo deadline) := by
  obtain ⟨log, timely⟩ := travels.timely
  cases answer : session.advanceTo deadline with
  | none =>
    unfold Session.advanceTo fireWindow at answer
    obtain ⟨deliveries, middle, timer, clock, fires, taken, undelivered⟩ :=
      Fires.opened.fire_none (Option.map_eq_none_iff.1 answer)
    rw [List.nil_append] at fires
    have leads := (travels.fires next near early fires).1.deliver taken
      (fires.timely timely (le_max_right _ _)).2.2 near early
    rw [undelivered] at leads
    exact leads
  | some later =>
    have kept := Timely.lasting.pass timely answer
    obtain ⟨deliveries, middle, fires, exhausted, rfl, -⟩ := timely.fired rfl answer
    obtain ⟨⟨-, within, player, alone, way⟩, stands⟩ := travels.fires next near early fires
    rcases stands with rfl | reached
    · -- nothing has been delivered, but the timer with this deadline is due
      rcases middle.quietUntil_or deadline with quiet | ⟨due, others, pending, sooner⟩
      · exact absurd (quiet deadline next) (Nat.lt_irrefl _)
      · have armed : due ∈ middle.stage.clock.pending := pending ▸ List.mem_cons_self
        have old := timely.sound.issued due armed
        refine absurd ?_ (timely.ordered.exhausted exhausted due armed)
        exact ⟨sooner.trans (le_max_left _ _), by simp [Timer.mayFire, windowTo, old]⟩
    · have still : (middle.closed (session.stage.clock.windowTo deadline)).now = middle.now :=
        max_eq_left reached.ge
      have same : player.journey (middle.closed (session.stage.clock.windowTo deadline)).stage player.due =
          ⟨player.bare, middle.stage.frozen (middle.closed (session.stage.clock.windowTo deadline)).now,
            player.due⟩ := rfl
      refine ⟨⟨_, kept⟩, still.trans_le within, player, alone, ?_⟩
      rw [same, still]
      exact way

/-- Left to itself, the session goes on along the way of its player. -/
theorem settle (rounds : Nat) (travels : session.Travels last first) (early : last ≤ Span.longest) :
    Leads last first (session.settle last rounds) := by
  have round {session : Session ω} {deadline : Nat} (travels : session.Travels last first)
      (next : session.nextDeadline? = some deadline) (near : ¬(last < deadline ∨ last < session.now)) :
      Leads last first (session.advanceTo deadline) :=
    travels.advanceTo next (by omega) early
  fun_induction Session.settle last rounds session with
  | case1 => exact travels
  | case2 => exact travels
  | case3 rounds session deadline next near broken => exact broken ▸ round travels next near
  | case4 rounds session deadline next near reached advanced moved ih =>
    have leads := round travels next near
    rw [advanced] at leads
    exact ih leads
  | case5 rounds session deadline next near reached advanced still spent =>
    have leads := round travels next near
    rw [advanced] at leads
    exact leads
  | case6 rounds session deadline next near reached advanced still more ih =>
    have leads := round travels next near
    rw [advanced] at leads
    exact ih leads

theorem run {limit : Nat} (travels : session.Travels last first) (reach : session.now + limit = last)
    (early : last ≤ Span.longest) : Leads last first ((session.runUntilIdle limit).map Prod.snd) := by
  have leads := travels.settle roundsPerInstant early
  unfold runUntilIdle
  rw [Span.after?_eq_some_iff.2 ⟨reach.trans_le early, reach⟩]
  cases settled : session.settle last roundsPerInstant with
  | none =>
    rw [settled] at leads
    simpa [settled] using leads
  | some later =>
    rw [settled] at leads
    simpa [settled] using leads

/-- The player of a session that is idle has come to the end of the way. -/
theorem rests (travels : session.Travels last first) (quiet : session.QuietUntil last) :
    ∃ player, session.players = [player] ∧
      ReflTransGen (Journey.Goes last) first (player.journey session.stage player.due) ∧
      player.due.Beyond last := by
  obtain ⟨⟨log, timely⟩, within, player, alone, way⟩ := travels
  refine ⟨player, alone, way, ?_⟩
  have listed : player ∈ session.players := alone ▸ List.mem_singleton_self player
  unfold Player.due
  cases waiting : player.waiting with
  | none => trivial
  | some wait =>
    have armed := ((timely.paced player listed).minds wait waiting).armed
    have ahead := timely.lt_of_quiet quiet armed
    simp only [Wait.due]
    split
    next yields =>
      have overdue := (timely.yield_deadline_le armed yields).trans within
      exact Nat.lt_irrefl _ (ahead.trans_le overdue)
    next => exact ahead

end Travels

theorem passed_of_run {limit passed : Nat} (ran : session.runUntilIdle limit = some (passed, later)) :
    session.now + limit ≤ Span.longest ∧ passed = later.now - session.now := by
  simp only [runUntilIdle, Option.bind_eq_bind, Option.bind_eq_some_iff, Option.some.injEq,
    Prod.mk.injEq] at ran
  obtain ⟨last, reach, other, -, rfl, rfl⟩ := ran
  exact ⟨(Span.after?_eq_some_iff.1 reach).1, rfl⟩

omit [Output ω] in
/-- Sessions of one player that have come to the same place on the way look the same. -/
theorem looks_of_journey {rest idle : Session ω} {last other : Player} (alone : rest.players = [other])
    (aloneLast : idle.players = [last])
    (same : other.journey rest.stage other.due = last.journey idle.stage last.due) :
    rest.now = idle.now ∧ rest.stage.trace = idle.stage.trace ∧
      rest.stage.output = idle.stage.output ∧ rest.history = idle.history ∧
      rest.players.map Player.bare = idle.players.map Player.bare ∧
      rest.players.map Player.due = idle.players.map Player.due := by
  have shown : rest.stage.frozen rest.now = idle.stage.frozen idle.now := congrArg Journey.stage same
  refine ⟨congrArg (fun stage => stage.clock.now) shown,
    congrArg (fun stage : Stage Still ω => stage.trace) shown,
    congrArg (fun stage : Stage Still ω => stage.output) shown,
    congrArg (fun stage => stage.bus.history) shown, ?_, ?_⟩
  · rw [alone, aloneLast]
    exact congrArg (fun journey => [journey.player]) same
  · rw [alone, aloneLast]
    exact congrArg (fun journey => [journey.due]) same

/-- The budget is not to be seen. A session of one player is started and left to itself, and it does not
give up, so nothing is due any more. With any other budget it answers as well, and unless it gives up, it
comes to the same after the same time: what was done and when, the output, the player but for its budget,
and what it is to do next. -/
theorem Reachable.runUntilIdle_budgeted {begun idle : Session ω} {steps : UInt64} {limit passed : Nat}
    {result : Except SessionError Unit} (reachable : session.Reachable)
    (reachableOther : (session.budgeted steps).Reachable) (alone : session.players = [player])
    (started : session.start player.id = some (result, begun))
    (ran : begun.runUntilIdle limit = some (passed, idle))
    (quiet : idle.QuietUntil (session.now + limit)) :
    ∃ frugal spent rest, (session.budgeted steps).start player.id = some (result, frugal) ∧
      frugal.runUntilIdle limit = some (spent, rest) ∧
      (rest.QuietUntil (session.now + limit) →
        spent = passed ∧ rest.now = idle.now ∧ rest.stage.trace = idle.stage.trace ∧
        rest.stage.output = idle.stage.output ∧ rest.history = idle.history ∧
        rest.players.map Player.bare = idle.players.map Player.bare ∧
        rest.players.map Player.due = idle.players.map Player.due) := by
  obtain ⟨log, run⟩ := reachable
  obtain ⟨logOther, runOther⟩ := reachableOther
  have timely := run.timely
  have timelyOther := runOther.timely
  have aloneOther : (session.budgeted steps).players = [player.budgeted steps] := by
    rw [budgeted, alone, List.map_singleton]
  have within : session.now ≤ session.now + limit := Nat.le_add_right _ _
  obtain ⟨rfl, now⟩ := timely.started alone started
  obtain ⟨early, rfl⟩ := passed_of_run ran
  rw [now] at early ⊢
  have reach : begun.now + limit = session.now + limit := by rw [now]
  -- the first session has come to the end of the way, so it does not break off
  have begins := timely.start_leads alone within early
  rw [started] at begins
  have travels := begins.run reach early
  rw [ran] at travels
  obtain ⟨last, aloneLast, way, beyond⟩ := travels.rests quiet
  have sound := Journey.not_breaks way beyond
  have beginsOther := timelyOther.start_leads aloneOther within early
  rw [show (session.budgeted steps).stage = session.stage from rfl, player.opening_budgeted] at beginsOther
  cases startedOther : (session.budgeted steps).start (player.budgeted steps).id with
  | none =>
    rw [startedOther] at beginsOther
    exact absurd beginsOther sound
  | some turn =>
    obtain ⟨answer, frugal⟩ := turn
    rw [startedOther] at beginsOther
    obtain ⟨rfl, nowOther⟩ := timelyOther.started aloneOther startedOther
    have reachOther : frugal.now + limit = session.now + limit := congrArg (· + limit) nowOther
    have travelsOther := beginsOther.run reachOther early
    cases ranOther : frugal.runUntilIdle limit with
    | none =>
      rw [ranOther] at travelsOther
      exact absurd travelsOther sound
    | some outcome =>
      obtain ⟨spent, rest⟩ := outcome
      rw [ranOther] at travelsOther
      obtain ⟨-, rfl⟩ := passed_of_run ranOther
      refine ⟨frugal, _, rest, startedOther, ranOther, fun quietOther => ?_⟩
      obtain ⟨lastOther, aloneRest, wayOther, beyondOther⟩ := travelsOther.rests quietOther
      have same := eq_of_halts (Journey.goes_unique _) wayOther way
        (Journey.halts_of_beyond beyondOther) (Journey.halts_of_beyond beyond)
      have looks := looks_of_journey aloneRest aloneLast same
      exact ⟨by rw [looks.1, nowOther]; rfl, looks⟩

theorem settle_of_next {rounds : Nat} (next : session.nextDeadline? = some deadline)
    (near : max deadline session.now ≤ last) (answer : session.advanceTo deadline = some later)
    (onward : session.now ≤ later.now) (more : 1 < rounds) : session.settle last rounds =
      later.settle last (if session.now < later.now then roundsPerInstant else rounds - 1) := by
  have within : ¬(last < deadline ∨ last < session.now) := by omega
  have enough : ¬(rounds ≤ 1 ∨ later.now < session.now) := by omega
  rw [Session.settle, next]
  simp only [if_neg within, answer, if_neg enough]
  split
  · rfl
  · rfl

/-- Three steps at one instant, taken at once or one by one. -/
theorem runUntilIdle_budgeted_relay :
    ∃ begun frugal idle rest : Session Universe, begun.nextDeadline? = some (Span.ofMilliseconds 5) ∧
      frugal.nextDeadline? = some 0 ∧
      begun.runUntilIdle (Span.ofMilliseconds 10) = some (Span.ofMilliseconds 5, idle) ∧
      frugal.runUntilIdle (Span.ofMilliseconds 10) = some (Span.ofMilliseconds 5, rest) ∧
      rest.stage.trace = idle.stage.trace := by
  let ready : Session Universe := ((Session.bare 3).load .relay).2
  have course : (do
      let (result, begun) ← ready.start ⟨1⟩
      let idle ← begun.advanceTo (Span.ofMilliseconds 5)
      let (_, frugal) ← (ready.budgeted 0).start ⟨1⟩
      let first ← frugal.advanceTo 0
      let second ← first.advanceTo 0
      let rest ← second.advanceTo (Span.ofMilliseconds 5)
      some ([begun, idle, frugal, first, second, rest].map fun session =>
        (session.now, session.nextDeadline?))) =
      some [(0, some (Span.ofMilliseconds 5)), (Span.ofMilliseconds 5, none), (0, some 0), (0, some 0),
        (0, some (Span.ofMilliseconds 5)), (Span.ofMilliseconds 5, none)] := by decide
  simp only [Option.bind_eq_bind, Option.bind_eq_some_iff, Prod.exists, Option.some.injEq, List.map_cons,
    List.map_nil, List.cons.injEq, Prod.mk.injEq, and_true] at course
  obtain ⟨result, begun, started, idle, passed, _, frugal, startedOther, first, yields, second, waits, rest,
    ends, ⟨now, next⟩, ⟨nowIdle, quiet⟩, ⟨nowFrugal, nextFrugal⟩, ⟨nowFirst, nextFirst⟩,
    ⟨nowSecond, nextSecond⟩, ⟨nowRest, quietRest⟩⟩ := course
  have reach : Span.after? 0 (Span.ofMilliseconds 10) = some (Span.ofMilliseconds 10) := by decide
  have settled (rounds : Nat) {session : Session Universe} (quiet : session.nextDeadline? = none) :
      session.settle (Span.ofMilliseconds 10) rounds = some session := by rw [settle, quiet]
  have ran : begun.runUntilIdle (Span.ofMilliseconds 10) = some (Span.ofMilliseconds 5, idle) := by
    rw [runUntilIdle, now, reach]
    simp only [Option.bind_eq_bind, Option.bind_some]
    rw [settle_of_next next (by rw [now]; decide) passed (now.le.trans (Nat.zero_le _)) (by decide),
      settled _ quiet, Option.bind_some, nowIdle, Nat.sub_zero]
  have ranOther : frugal.runUntilIdle (Span.ofMilliseconds 10) = some (Span.ofMilliseconds 5, rest) := by
    rw [runUntilIdle, nowFrugal, reach]
    simp only [Option.bind_eq_bind, Option.bind_some]
    -- the first two windows leave the clock where it is
    rw [settle_of_next nextFrugal (by rw [nowFrugal]; decide) yields (nowFrugal.le.trans (Nat.zero_le _))
        (by decide), nowFrugal, nowFirst, if_neg (Nat.lt_irrefl 0),
      settle_of_next nextFirst (by rw [nowFirst]; decide) waits (nowFirst.le.trans (Nat.zero_le _))
        (by decide), nowFirst, nowSecond, if_neg (Nat.lt_irrefl 0),
      settle_of_next nextSecond (by rw [nowSecond]; decide) ends (nowSecond.le.trans (Nat.zero_le _))
        (by decide), settled _ quietRest, Option.bind_some, nowRest, Nat.sub_zero]
  have loads (settings : EngineSettings) :
      ((Session.create (Universe.empty 1) .empty settings (.splitmix 0)).load .relay).2.Reachable :=
    ⟨_, .perform (.create (.empty 1) .empty settings (.splitmix 0)) (.load .relay) rfl⟩
  have reachable : ready.Reachable := loads _
  have reachableOther : (ready.budgeted 0).Reachable := loads ⟨0, none, 8⟩
  obtain ⟨other, spent, last, again, ranAgain, same⟩ :=
    reachable.runUntilIdle_budgeted reachableOther rfl started ran (by simp [QuietUntil, quiet])
  obtain rfl := (Prod.mk.inj (Option.some.inj (startedOther.symm.trans again))).2
  obtain ⟨rfl, rfl⟩ := Prod.mk.inj (Option.some.inj (ranOther.symm.trans ranAgain))
  exact ⟨begun, frugal, idle, rest, next, nextFrugal, ran, ranOther,
    (same (by simp [QuietUntil, quietRest])).2.2.1⟩

end Session

end LightingDesk
