import LightingDesk.Proofs.Playback.Pace
import Mathlib.Algebra.GroupWithZero.Nat
import Mathlib.Algebra.Order.BigOperators.Group.List
import Mathlib.Algebra.Order.Group.Nat

/-!
The deliveries of a window come to an end. Each player is charged with the deliveries that it may still
cause before the end of the window, and every delivery lowers the sum: `Session.Timely.fires_length`.
So the loop of a window stops only when nothing is due any more: `Session.Timely.fired`.
-/

namespace LightingDesk

/-- A timer that is delivered, and the session that its player finds. -/
structure Delivery (ω : Type) where
  timer : Timer
  found : Session ω

variable {ω : Type} [Output ω]

/-- The steps that come of a delivery. -/
def Delivery.moments (delivery : Delivery ω) : List (Moment TimerQueue ω) :=
  delivery.found.deliverMoments delivery.timer.token

/-- The delivery armed the timer: for its own player, at the time on the clock. -/
def Delivery.Armed (delivery : Delivery ω) (timer : Timer) : Prop :=
  timer.token.player = delivery.timer.token.player ∧
    ∃ delay, timer.deadline = delivery.found.now + delay ∧ (timer.yielded = true → delay = 0)

namespace Session

/-- The instant up to which a request lets time pass. -/
def until? (session : Session ω) : Request ω → Option Nat
  | .advanceTo target => some target
  | .advance delay => some (session.now + delay)
  | _ => none

theorem fireWindow_of_until? {session later : Session ω} {request : Request ω} {target : Nat}
    (asked : session.until? request = some target) (answer : session.perform request = some later) :
    session.fireWindow (session.stage.clock.windowTo target) = some later ∧
      session.moments request = session.windowMoments (session.stage.clock.windowTo target) := by
  unfold until? at asked
  split at asked
  next =>
    obtain rfl := Option.some.inj asked
    exact ⟨answer, rfl⟩
  next delay =>
    obtain rfl := Option.some.inj asked
    simp only [perform, Session.advance, TimerQueue.windowBy?, Option.bind_eq_some_iff,
      Option.map_eq_some_iff] at answer
    obtain ⟨window, ⟨target, reached, rfl⟩, fired⟩ := answer
    obtain rfl := (Span.after?_eq_some_iff.1 reached).2
    refine ⟨fired, ?_⟩
    rw [moments, TimerQueue.windowBy?, reached]
    rfl
  next => simp at asked

theorem perform_of_until? {session : Session ω} {request : Request ω} {target : Nat}
    (asked : session.until? request = some target) (early : target ≤ Span.longest) :
    session.perform request = session.fireWindow (session.stage.clock.windowTo target) := by
  unfold until? at asked
  split at asked
  next =>
    obtain rfl := Option.some.inj asked
    rfl
  next delay =>
    obtain rfl := Option.some.inj asked
    have reached : Span.after? session.stage.clock.now delay = some (session.now + delay) :=
      Span.after?_eq_some_iff.2 ⟨early, rfl⟩
    rw [perform, Session.advance, TimerQueue.windowBy?, reached]
    rfl
  next => simp at asked

/-- The deliveries of a window so far, in order, and the session as they have left it. -/
inductive Fires (window : Window) (session : Session ω) : List (Delivery ω) → Session ω → Prop where
  | opened : Fires window session [] session
  | delivered {deliveries middle timer clock later} (before : Fires window session deliveries middle)
      (taken : middle.stage.clock.take? window = some (timer, clock))
      (delivery : (middle.popped clock).deliver timer.token = some later) :
      Fires window session (deliveries ++ [⟨timer, middle.popped clock⟩]) later

namespace Fires

variable {window : Window} {session middle later : Session ω} {deliveries : List (Delivery ω)}
  {log : List (Moment TimerQueue ω)}

/-- What every delivery hands on holds throughout a window. -/
theorem rule {I : List (Delivery ω) → Session ω → Prop} (timely : Timely session log)
    (opened : I [] session)
    (beats : ∀ {deliveries middle timer clock player wait later reached log}, I deliveries middle →
      Timely middle log → Beat window middle timer clock player wait later reached →
      I (deliveries ++ [⟨timer, middle.popped clock⟩]) reached)
    (fires : Fires window session deliveries middle) :
    Timely middle (log ++ deliveries.flatMap Delivery.moments) ∧ I deliveries middle := by
  induction fires with
  | opened => exact ⟨by simpa using timely, opened⟩
  | delivered before taken delivery ih =>
    obtain ⟨timely, holds⟩ := ih
    obtain ⟨player, wait, later, beat⟩ := timely.beat taken delivery
    refine ⟨?_, beats holds timely beat⟩
    rw [List.flatMap_append, List.flatMap_singleton, ← List.append_assoc]
    exact timely.delivered taken delivery

theorem timely (timely : Timely session log) (within : session.now ≤ window.limit)
    (fires : Fires window session deliveries middle) :
    Timely middle (log ++ deliveries.flatMap Delivery.moments) ∧
      middle.settings = session.settings ∧ middle.now ≤ window.limit := by
  refine fires.rule (I := fun _ middle =>
    middle.settings = session.settings ∧ middle.now ≤ window.limit) timely ⟨rfl, within⟩ ?_
  rintro deliveries middle timer clock player wait later reached log ⟨settings, within⟩ timely beat
  refine ⟨?_, beat.reached_le within⟩
  rw [beat.replaced]
  exact settings

/-- The loop of a window makes deliveries until its fuel is spent or nothing is due. -/
theorem fire {fuel : Nat} (before : Fires window session deliveries middle)
    (answer : middle.fire fuel window = some later) :
    ∃ more, Fires window session (deliveries ++ more) later ∧
      middle.fireMoments fuel window = more.flatMap Delivery.moments ∧
      (more.length = fuel ∨ later.stage.clock.take? window = none) := by
  induction fuel generalizing deliveries middle with
  | zero =>
    obtain rfl := Option.some.inj answer
    exact ⟨[], by simpa using before, rfl, .inl rfl⟩
  | succ fuel ih =>
    unfold Session.fire at answer
    unfold fireMoments
    rw [TimerQueue.pop?_eq] at answer ⊢
    cases taken : middle.stage.clock.take? window with
    | none =>
      simp only [taken, Option.map_none, Option.some.injEq] at answer
      subst answer
      exact ⟨[], by simpa using before, by simp, .inr taken⟩
    | some next =>
      obtain ⟨timer, clock⟩ := next
      simp only [taken, Option.map_some] at answer ⊢
      split at answer
      next => simp at answer
      next reached delivery =>
        obtain ⟨more, fires, moments, spent⟩ := ih (before.delivered taken delivery) answer
        have same : (middle.popped clock).deliver timer.token = some reached := delivery
        refine ⟨⟨timer, middle.popped clock⟩ :: more, by simpa using fires, ?_, ?_⟩
        · simp only [same, moments]
          rfl
        · simpa using spent

/-- The loop of a window breaks off only in a delivery. -/
theorem fire_none {fuel : Nat} (before : Fires window session deliveries middle)
    (failed : middle.fire fuel window = none) :
    ∃ more last timer clock, Fires window session (deliveries ++ more) last ∧
      last.stage.clock.take? window = some (timer, clock) ∧
      (last.popped clock).deliver timer.token = none := by
  induction fuel generalizing deliveries middle with
  | zero => simp [Session.fire] at failed
  | succ fuel ih =>
    unfold Session.fire at failed
    rw [TimerQueue.pop?_eq] at failed
    cases taken : middle.stage.clock.take? window with
    | none => simp [taken] at failed
    | some next =>
      obtain ⟨timer, clock⟩ := next
      simp only [taken, Option.map_some] at failed
      split at failed
      next broken => exact ⟨[], middle, timer, clock, by simpa using before, taken, broken⟩
      next reached delivery =>
        obtain ⟨more, last, rest⟩ := ih (before.delivered taken delivery) failed
        exact ⟨⟨timer, middle.popped clock⟩ :: more, last, by simpa using rest⟩

end Fires

end Session

/-! ### Charges -/

/-- The deliveries that a player may still cause from `now` to the end of a window, if `left` steps
of its budget are left at that instant: at each later instant a budget, and one more. -/
def Window.allowance (window : Window) (budget now left : Nat) : Nat :=
  (window.limit - now) / Span.perMillisecond * (budget + 1) + left

theorem Window.allowance_le {window : Window} {budget other now start left more : Nat}
    (budgets : budget ≤ other) (later : start ≤ now) (fewer : left ≤ more) :
    window.allowance budget now left ≤ window.allowance other start more := by
  unfold allowance
  have sooner : (window.limit - now) / Span.perMillisecond ≤
      (window.limit - start) / Span.perMillisecond :=
    Nat.div_le_div_right (Nat.sub_le_sub_left later _)
  exact Nat.add_le_add (Nat.mul_le_mul sooner (Nat.add_le_add_right budgets 1)) fewer

/-- A delay of a millisecond or more pays for a whole budget. -/
theorem Window.allowance_delay {window : Window} {budget now delay left : Nat}
    (long : Span.perMillisecond ≤ delay) (within : now + delay ≤ window.limit) :
    window.allowance budget (now + delay) budget + 1 ≤ window.allowance budget now left := by
  unfold allowance
  have positive : 0 < Span.perMillisecond := by decide
  have instants : (window.limit - (now + delay)) / Span.perMillisecond + 1 ≤
      (window.limit - now) / Span.perMillisecond := by
    rw [← Nat.add_div_right _ positive]
    exact Nat.div_le_div_right (by omega)
  calc (window.limit - (now + delay)) / Span.perMillisecond * (budget + 1) + budget + 1
      = ((window.limit - (now + delay)) / Span.perMillisecond + 1) * (budget + 1) := by
        rw [Nat.add_mul, Nat.one_mul, Nat.add_assoc]
    _ ≤ (window.limit - now) / Span.perMillisecond * (budget + 1) :=
        Nat.mul_le_mul_right _ instants
    _ ≤ _ := Nat.le_add_right _ _

/-- The steps that are left of the budget when a wait is over. -/
def Player.left (player : Player) (wait : Wait) : Nat :=
  if wait.yielded = false ∧ wait.delay = 0 then player.settings.budget - player.burstSteps
  else player.settings.budget

/-- The deliveries that a player may still cause in a window that was opened at `start`. -/
def Player.charge (window : Window) (start : Nat) (player : Player) : Nat :=
  match player.waiting with
  | none => 0
  | some wait =>
      if (player.timer wait).deadline ≤ window.limit ∧ (player.timer wait).mayFire window = true then
        window.allowance player.settings.budget (max start (player.timer wait).deadline)
          (player.left wait) + 1
      else 0

section Charge

variable {window : Window} {start : Nat} {player later : Player}

theorem Player.charge_le {budget : Nat} (paced : player.settings.budget ≤ budget) :
    player.charge window start ≤ if player.waiting.isSome then window.allowance budget start budget + 1
      else 0 := by
  unfold charge
  cases waiting : player.waiting with
  | none => exact Nat.le_refl _
  | some wait =>
    rw [Option.isSome_some, if_pos rfl]
    dsimp only
    split
    · have left : player.left wait ≤ budget := by
        unfold left
        split
        · exact (Nat.sub_le _ _).trans paced
        · exact paced
      exact Nat.succ_le_succ (Window.allowance_le paced (le_max_left _ _) left)
    · exact Nat.zero_le _

omit [Output ω] in
/-- What a run leaves a player to cause is within what was left of the budget. -/
theorem Player.Drove.charge_le {stage shown : Stage TimerQueue ω} {first : Step}
    {taken : List (Moment TimerQueue ω)} (drove : player.Drove stage first taken later shown)
    (within : player.burstSteps ≤ player.settings.budget)
    (barrier : window.barrier ≤ stage.clock.nextHandle) (opened : start ≤ stage.clock.now) :
    later.charge window start ≤ window.allowance player.settings.budget stage.clock.now
      (player.settings.budget - player.burstSteps) := by
  unfold charge
  rcases drove.arms with ⟨-, free, -⟩ | ⟨wait, -, waiting, arms, since, delayed, yielded⟩
  · rw [free]
    exact Nat.zero_le _
  · rw [waiting]
    dsimp only
    split
    next due =>
      obtain ⟨within', fires⟩ := due
      have plain : wait.yielded = false := by
        -- a yield of this window is not delivered in it
        by_contra yields
        have early : (later.timer wait).handle < window.barrier :=
          Timer.IsDue.early ⟨within', fires⟩ (by simpa [Player.timer] using yields)
        rw [arms.handle] at early
        exact absurd early (Nat.not_lt.2 barrier)
      obtain ⟨stepped, asks⟩ := delayed plain
      have deadline : (later.timer wait).deadline = stage.clock.now + wait.delay := by
        rw [Player.timer, since]
      rw [deadline] at within' ⊢
      rw [max_eq_right (opened.trans (Nat.le_add_right _ _)), drove.settings]
      by_cases instant : wait.delay = 0
      · have spent := drove.burstSteps
        have room := drove.within
        rw [max_eq_left within] at room
        have some := List.length_pos_iff.2 stepped
        have still : stage.clock.now + wait.delay = stage.clock.now := by omega
        rw [Player.left, if_pos ⟨plain, instant⟩, drove.settings, still, Window.allowance,
          Window.allowance]
        omega
      · have long := Nat.le_of_dvd (Nat.pos_of_ne_zero instant) (Player.perMillisecond_dvd asks)
        rw [Player.left, if_neg fun now => instant now.2, drove.settings]
        exact Window.allowance_delay long within'
    next => exact Nat.zero_le _

/-- A delivery costs its player more than it leaves the player to cause. -/
theorem Session.Beat.charge_lt {session reached : Session ω} {timer : Timer} {clock : TimerQueue}
    {wait : Wait} (beat : Session.Beat window session timer clock player wait later reached)
    (paced : player.Paced session.stage.clock)
    (barrier : window.barrier ≤ session.stage.clock.nextHandle) (opened : start ≤ session.now) :
    later.charge window start < player.charge window start := by
  have due := beat.takes.isDue
  have now := beat.takes.now
  rw [beat.timed] at due now
  have cost := beat.drove.charge_le (paced.resumed_within _ wait)
    (beat.takes.nextHandle ▸ barrier) (now ▸ opened.trans (le_max_left _ _))
  refine Nat.lt_of_le_of_lt cost ?_
  unfold Player.charge
  rw [beat.waiting]
  dsimp only
  rw [if_pos ⟨due.within, due.mayFire⟩, Nat.lt_succ_iff, player.resumed_settings]
  refine Window.allowance_le le_rfl ?_ ?_
  · exact (max_le (opened.trans (le_max_left _ _)) (le_max_right _ _)).trans now.ge
  · unfold Player.left
    split
    next instant =>
      obtain ⟨plain, none⟩ := instant
      have again : clock.now = player.burstAt := by
        rw [beat.now, beat.timed, Player.timer, none, beat.minds.armedAt]
        simp [plain]
      rw [Player.resumed, Player.burst_burstSteps, if_pos ⟨plain, again⟩]
    next => exact Nat.sub_le _ _

end Charge

namespace Session

/-- The deliveries that the players of a session may still cause in a window. -/
def charge (session : Session ω) (window : Window) (start : Nat) : Nat :=
  (session.players.map (Player.charge window start)).sum

theorem Beat.lowers {window : Window} {start : Nat} {session reached : Session ω} {timer : Timer}
    {clock : TimerQueue} {player later : Player} {wait : Wait} {log : List (Moment TimerQueue ω)}
    (beat : Beat window session timer clock player wait later reached) (timely : Timely session log)
    (barrier : window.barrier ≤ session.stage.clock.nextHandle) (opened : start ≤ session.now) :
    reached.charge window start < session.charge window start := by
  have listed := mem_of_player? beat.found
  have lower := beat.charge_lt (timely.paced player listed) barrier opened
  have same := beat.later_id
  rw [beat.replaced, charge, charge, Session.replace, List.map_map]
  refine List.sum_lt_sum _ _ ?_ ⟨player, listed, ?_⟩
  · intro other member
    rw [Function.comp_apply]
    split
    next named =>
      have owner : other = player := List.inj_on_of_nodup_map timely.distinct member listed
        ((by simpa using named : other.id = later.id).trans same)
      exact owner ▸ lower.le
    next => exact le_rfl
  · rw [Function.comp_apply, if_pos (by simp [same])]
    exact lower

omit [Output ω] in
theorem budget_le_largestBudget {session : Session ω} {player : Player}
    (member : player ∈ session.players) : player.settings.budget ≤ session.largestBudget := by
  have most (players : List Player) (start : Nat) :
      start ≤ players.foldl (fun most player => max most player.settings.budget) start ∧
      ∀ player ∈ players, player.settings.budget ≤
        players.foldl (fun most player => max most player.settings.budget) start := by
    induction players generalizing start with
    | nil => simp
    | cons first rest ih =>
      obtain ⟨grows, covers⟩ := ih (max start first.settings.budget)
      refine ⟨(le_max_left _ _).trans grows, ?_⟩
      intro player member
      rcases List.mem_cons.1 member with rfl | listed
      · exact (le_max_right _ _).trans grows
      · exact covers player listed
  exact (most session.players 1).2 player member

omit [Output ω] in
theorem sum_charge_le {window : Window} {start most : Nat} {players : List Player}
    (charges : ∀ player ∈ players,
      player.charge window start ≤ if player.playing then most else 0) :
    (players.map (Player.charge window start)).sum ≤ players.countP Player.playing * most := by
  induction players with
  | nil => simp
  | cons first rest ih =>
    have now := charges first List.mem_cons_self
    have later := ih fun player member => charges player (List.mem_cons_of_mem _ member)
    rw [List.map_cons, List.sum_cons, List.countP_cons, Nat.add_mul, Nat.add_comm]
    refine Nat.add_le_add later (now.trans ?_)
    split
    · rw [Nat.one_mul]
    · exact Nat.zero_le _

theorem Timely.charge_lt {session : Session ω} {log : List (Moment TimerQueue ω)}
    (timely : Timely session log) (window : Window) :
    session.charge window session.now < session.deliveryBound window.limit := by
  have charges : ∀ player ∈ session.players, player.charge window session.now ≤
      if player.playing then
        window.allowance session.largestBudget session.now session.largestBudget + 1
      else 0 := by
    intro player member
    refine (Player.charge_le (budget_le_largestBudget member)).trans ?_
    cases playing : player.playing with
    | true =>
      rw [if_pos rfl]
      split
      · exact le_rfl
      · exact Nat.zero_le _
    | false =>
      obtain ⟨act, life⟩ := timely.living player member
      rw [(life.chronicle.idles playing).1]
      exact le_rfl
  have total : session.charge window session.now ≤ _ := sum_charge_le charges
  rw [← timely.pendingTimers_eq, Window.allowance] at total
  unfold deliveryBound
  generalize (window.limit - session.now) / Span.perMillisecond = instants at total ⊢
  have each : instants * (session.largestBudget + 1) + session.largestBudget + 1 ≤
      (instants + 2) * (session.largestBudget + 2) := by
    rw [Nat.add_assoc, ← Nat.succ_mul]
    exact Nat.mul_le_mul (Nat.le_succ _) (Nat.le_succ _)
  have positive : 0 < (instants + 2) * (session.largestBudget + 2) :=
    Nat.mul_pos (Nat.succ_pos _) (Nat.succ_pos _)
  have all := Nat.mul_le_mul_left session.pendingTimers each
  rw [Nat.add_mul, Nat.one_mul]
  omega

/-- The deliveries of a window are fewer than the fuel of its loop. -/
theorem Timely.fires_length {session middle : Session ω} {log : List (Moment TimerQueue ω)}
    {window : Window} {deliveries : List (Delivery ω)} (timely : Timely session log)
    (opened : window.barrier = session.stage.clock.nextHandle)
    (fires : Fires window session deliveries middle) :
    deliveries.length < session.deliveryBound window.limit := by
  have charged := fires.rule
    (I := fun deliveries middle => window.barrier ≤ middle.stage.clock.nextHandle ∧
      session.now ≤ middle.now ∧
      deliveries.length + middle.charge window session.now ≤ session.charge window session.now)
    timely ⟨opened.le, le_rfl, by simp⟩ ?_
  · have bound := timely.charge_lt window
    omega
  · rintro deliveries middle timer clock player wait later reached log ⟨barrier, since, spent⟩
      timely beat
    have lower := beat.lowers timely barrier since
    refine ⟨barrier.trans beat.nextHandle_le, since.trans beat.now_le, ?_⟩
    · rw [List.length_append, List.length_singleton]
      omega

/-- The loop of a window ends when nothing is due any more. -/
theorem Timely.fired {session later : Session ω} {log : List (Moment TimerQueue ω)} {window : Window}
    (timely : Timely session log) (opened : window.barrier = session.stage.clock.nextHandle)
    (answer : session.fireWindow window = some later) :
    ∃ deliveries last, Fires window session deliveries last ∧
      last.stage.clock.take? window = none ∧ later = last.closed window ∧
      session.windowMoments window = deliveries.flatMap Delivery.moments := by
  unfold fireWindow at answer
  rw [Option.map_eq_some_iff] at answer
  obtain ⟨last, fired, rfl⟩ := answer
  obtain ⟨deliveries, fires, moments, spent⟩ := Fires.opened.fire fired
  have fewer := timely.fires_length opened fires
  exact ⟨deliveries, last, fires, spent.resolve_left fewer.ne, rfl, moments⟩

/-- When nothing is due any more, the clock may move on to the end of the window. -/
theorem Timely.closed {session : Session ω} {log : List (Moment TimerQueue ω)} {window : Window}
    (timely : Timely session log) (exhausted : session.stage.clock.take? window = none) :
    Timely (session.closed window) log where
  toTied := timely.toTied.restage _ rfl rfl
  ordered := timely.ordered
  budgeted := timely.budgeted
  paced := by
    intro player member
    refine (timely.paced player member).frame (le_max_left _ _) (fun timer armed _ => armed) ?_
    intro timer armed _ plain ahead
    refine max_le ahead (Nat.le_of_not_le fun within => ?_)
    exact timely.ordered.exhausted exhausted timer armed (.of_plain plain within)

theorem Timely.lasting : Lasting (Timely (ω := ω)) where
  create := .create
  load := fun act timely => timely.load act
  start := fun timely found answer => timely.start found answer
  restage := fun stage timely clock _ => timely.restage stage clock
  remove := fun id timely idle => timely.remove id idle
  stop := fun timely found => timely.stop found
  pass := by
    intro session log target later timely answer
    obtain ⟨deliveries, last, fires, exhausted, rfl, moments⟩ := timely.fired rfl answer
    rw [moments]
    exact (fires.timely timely (le_max_right _ _)).1.closed exhausted

theorem Run.timely {session : Session ω} {log : List (Moment TimerQueue ω)} (run : session.Run log) :
    Timely session log :=
  Timely.lasting.run run

end Session

end LightingDesk
