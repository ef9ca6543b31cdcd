import LightingDesk.Proofs.Playback.Overflow
import LightingDesk.Proofs.Playback.Still

/-!
The way of a player, apart from its budget. A step that is left over for want of budget is simply taken
next, so the runs of a player, whatever its budget, are stretches of one way (`Player.drive_leads`), on
which every move is the only one (`Journey.goes_unique`).
-/

namespace LightingDesk

/-- What a player comes to next: a step at once, a step at some time, or nothing. -/
inductive Due where
  | now (step : Step)
  | at (time : Nat) (step : Step)
  | never

/-- Nothing is to be done by an instant. -/
def Due.Beyond (last : Nat) : Due → Prop
  | .now _ => False
  | .at time _ => last < time
  | .never => True

def Wait.due (wait : Wait) : Due :=
  if wait.yielded then .now wait.resume else .at (wait.armedAt + wait.delay) wait.resume

namespace Player

def due (player : Player) : Due :=
  match player.waiting with
  | none => .never
  | some wait => wait.due

/-- The player without its budget and without its timer. -/
def bare (player : Player) : Player :=
  { player with
    settings := { player.settings with maxSyncSteps := 0 }
    burstAt := 0
    burstSteps := 0
    waiting := none }

end Player

structure Journey (ω : Type) where
  player : Player
  stage : Stage Still ω
  due : Due

def Player.journey {σ ω : Type} [Scheduler σ] (player : Player) (stage : Stage σ ω) (due : Due) :
    Journey ω :=
  ⟨player.bare, stage.frozen (Scheduler.now stage.clock), due⟩

open Relation

variable {ω : Type} [Output ω]

namespace Journey

/-- One move: a step, which does not wait beyond the last instant of the clock, or time passes up to the
next one, but not beyond `last`. -/
inductive Goes (last : Nat) : Journey ω → Journey ω → Prop where
  | step {player later stage shown step next}
      (taken : player.counted.execute stage step = some (later, shown, next))
      (reaches : ∀ wait, later.waiting = some wait → wait.armedAt + wait.delay ≤ Span.longest) :
      Goes last ⟨player, stage, .now step⟩ (later.journey shown (next.elim later.due .now))
  | resume {player stage time step} (within : time ≤ last) :
      Goes last ⟨player, stage, .at time step⟩ ⟨player, stage.frozen time, .now step⟩

/-- The way comes to a step that cannot be taken. -/
def Breaks (last : Nat) (journey : Journey ω) : Prop :=
  ∃ stuck step, ReflTransGen (Goes last) journey stuck ∧ stuck.due = .now step ∧
    ∀ next, ¬Goes last stuck next

/-- A player and its stage have come along the way, or have no answer because it breaks off. -/
def Leads (last : Nat) (journey : Journey ω) : Option (Player × Stage TimerQueue ω) → Prop
  | some (later, shown) => ReflTransGen (Goes last) journey (later.journey shown later.due)
  | none => journey.Breaks last

variable {last : Nat} {journey first ends : Journey ω} {outcome : Option (Player × Stage TimerQueue ω)}

theorem goes_unique (last : Nat) : Relator.RightUnique (Goes (ω := ω) last) := by
  rintro journey next other first second
  cases first with
  | step taken =>
    cases second with
    | step again =>
      have same := Option.some.inj (taken.symm.trans again)
      simp only [Prod.mk.injEq] at same
      obtain ⟨rfl, rfl, rfl⟩ := same
      rfl
  | resume =>
    cases second with
    | resume => rfl

theorem halts_of_beyond (beyond : journey.due.Beyond last) : ∀ next, ¬Goes last journey next := by
  rintro next (step | within)
  · exact beyond
  · exact absurd within (Nat.not_le.2 beyond)

theorem Breaks.of_way (way : ReflTransGen (Goes last) first journey) (breaks : journey.Breaks last) :
    first.Breaks last := by
  obtain ⟨stuck, step, onward, due, halts⟩ := breaks
  exact ⟨stuck, step, way.trans onward, due, halts⟩

/-- A way that comes to an end does not break off. -/
theorem not_breaks (way : ReflTransGen (Goes last) first ends) (beyond : ends.due.Beyond last) :
    ¬first.Breaks last := by
  rintro ⟨stuck, step, onward, due, halts⟩
  obtain rfl := eq_of_halts (goes_unique last) way onward (halts_of_beyond beyond) halts
  rw [due] at beyond
  exact beyond

theorem Leads.of_way (way : ReflTransGen (Goes last) first journey) (leads : journey.Leads last outcome) :
    first.Leads last outcome := by
  cases outcome with
  | none => exact Breaks.of_way way leads
  | some => exact way.trans leads

end Journey

namespace Player

variable {player later : Player} {stage shown : Stage TimerQueue ω} {step : Step}

/-- What the player without its budget is granted for one step. -/
def bareGrant (player : Player) : Grant := ⟨player.bare.settings, 0, 1⟩

/-- A step comes to one plan, whatever is left of the budget. -/
theorem execute_bare (free : player.waiting = none) (stage : Stage TimerQueue ω) (step : Step) :
    ∃ plan : Plan, plan.later.waiting = none ∧
      player.counted.execute stage step = (plan.granted player.counted.grant).enact stage ∧
      player.bare.counted.execute (stage.frozen stage.now) step =
        (plan.granted player.bareGrant).enact (stage.frozen stage.now) := by
  obtain ⟨plan, suits, -, executes⟩ :=
    execute_plan player.counted free player.act.blurs_eq stage step
  have bare : player.bare.counted = player.counted.granted player.bareGrant := by
    rw [Player.bare, ← free]
    rfl
  refine ⟨plan, suits.free, executes stage player.counted.grant ⟨rfl, rfl, rfl, rfl⟩, ?_⟩
  rw [bare]
  exact executes (stage.frozen stage.now) player.bareGrant ⟨rfl, rfl, rfl, rfl⟩

theorem execute_goes {next : Option Step} (free : player.waiting = none) (last : Nat)
    (taken : player.counted.execute stage step = some (later, shown, next)) :
    Journey.Goes last (player.journey stage (.now step))
        (later.journey shown (next.elim later.due .now)) ∧
      ∀ follows, next = some follows → later.waiting = none ∧ shown.clock = stage.clock := by
  obtain ⟨plan, clear, here, there⟩ := execute_bare free stage step
  have waits (grant : Grant) : (plan.later.granted grant).waiting = none := clear
  rw [taken] at here
  unfold Plan.enact Outlook.turn at here there
  cases outlook : plan.outlook with
  | goesOn follows =>
    simp only [Plan.granted, outlook, goOn, Option.some.injEq, Prod.mk.injEq] at here there
    obtain ⟨rfl, rfl, rfl⟩ := here
    refine ⟨.step there ?_, fun _ _ => ⟨clear, rfl⟩⟩
    simp [clear]
  | waits delay resume curve =>
    simp only [Plan.granted, outlook, pause] at here there
    obtain ⟨⟨waiting, armed⟩, arms, same⟩ := Option.map_eq_some_iff.1 here.symm
    simp only [Prod.mk.injEq] at same
    obtain ⟨rfl, rfl, rfl⟩ := same
    obtain ⟨handle, clock, scheduled, rfl, rfl⟩ := arm_eq_some (waits _) arms
    have reaches := TimerQueue.reaches_of_arm? scheduled
    obtain ⟨-, rfl⟩ := TimerQueue.arm?_eq_some scheduled
    rw [arm_still (waits _)] at there
    refine ⟨.step there ?_, by simp⟩
    rintro wait ⟨⟩
    exact reaches
  | rests =>
    simp only [Plan.granted, outlook, pause, Option.map_some] at here there
    simp only [Option.some.injEq, Prod.mk.injEq] at here
    obtain ⟨rfl, rfl, rfl⟩ := here
    refine ⟨.step there ?_, by simp⟩
    simp [clear]

/-- A step that has no answer would wait beyond the last instant of the clock. -/
theorem execute_breaks (free : player.waiting = none) (last : Nat)
    (failed : player.counted.execute stage step = none) :
    (player.journey stage (.now step)).Breaks last := by
  refine ⟨_, step, .refl, rfl, ?_⟩
  obtain ⟨plan, clear, here, there⟩ := execute_bare free stage step
  rw [failed] at here
  unfold Plan.enact Outlook.turn at here there
  cases outlook : plan.outlook with
  | goesOn follows => simp [Plan.granted, outlook, goOn] at here
  | waits delay resume curve =>
    simp only [Plan.granted, outlook] at here there
    have unscheduled := arm_eq_none here.symm rfl rfl
    have waits : (plan.later.granted player.bareGrant).waiting = none := clear
    rw [pause, arm_still waits] at there
    rintro next (⟨taken, reaches⟩ | -)
    obtain ⟨rfl, rfl, rfl⟩ := by
      simpa only [Option.map_some, Option.some.injEq, Prod.mk.injEq] using there.symm.trans taken
    exact absurd (reaches _ rfl) (Nat.not_le.2 (TimerQueue.arm?_eq_none unscheduled))
  | rests => simp [Plan.granted, outlook, pause] at here

theorem run_leads (player : Player) (free : player.waiting = none)
    (early : stage.clock.now ≤ Span.longest) (last steps : Nat) (step : Step) :
    (player.journey stage (.now step)).Leads last (player.run steps stage step) := by
  induction steps generalizing player stage step with
  | zero =>
    cases ran : player.armYield stage step with
    | none =>
      exact absurd (TimerQueue.arm?_eq_none (armYield_eq_none ran)) (Nat.not_lt.2 early)
    | some outcome =>
      obtain ⟨handle, clock, scheduled, same, shown⟩ := armYield_eq_some free ran
      obtain ⟨-, rfl⟩ := TimerQueue.arm?_eq_some scheduled
      rw [run, ran, show outcome = (_, _) from Prod.ext same shown]
      exact .refl
  | succ steps ih =>
    rw [run_succ]
    cases taken : player.counted.execute stage step with
    | none => exact execute_breaks free last taken
    | some turn =>
      obtain ⟨moved, reached, next⟩ := turn
      obtain ⟨goes, onward⟩ := execute_goes free last taken
      cases next with
      | none => exact .single goes
      | some next =>
        obtain ⟨clear, clock⟩ := onward next rfl
        exact (ih moved clear (clock ▸ early) next).of_way (.single goes)

theorem drive_leads (player : Player) (free : player.waiting = none)
    (early : stage.clock.now ≤ Span.longest) (last : Nat) (step : Step) (fresh : Bool) :
    (player.journey stage (.now step)).Leads last (player.drive stage step fresh) := by
  obtain ⟨burstAt, burstSteps, same⟩ := player.burst_eq stage fresh
  have begins : (player.burst stage fresh).journey stage (.now step) =
      player.journey stage (.now step) := by
    rw [same]
    rfl
  rw [← begins]
  refine run_leads (player.burst stage fresh) ?_ early last _ step
  rw [same]
  exact free

end Player

end LightingDesk
