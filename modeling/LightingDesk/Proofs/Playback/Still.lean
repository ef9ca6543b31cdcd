import LightingDesk.Proofs.Playback.Conduct
import Mathlib.Logic.Relation

/-!
Players on a clock that stands still. Such a clock arms whatever it is asked to, so what a player does
there depends on the player and on the looks of the stage alone; and it is what the player does on any
clock that shows the same time, handles of timers apart (`Player.answer_still`).
-/

namespace LightingDesk

/-- A clock that shows one instant, and forgets the timers that it arms. -/
structure Still where
  now : Nat

instance : Scheduler Still where
  now := Still.now
  schedule still _ _ := some (0, still)
  cancel still _ := still

/-- The stage at an instant, with nothing on its trace. -/
def Stage.still {σ ω : Type} (stage : Stage σ ω) (now : Nat) : Stage Still ω :=
  { scenes := stage.scenes
    signals := stage.signals
    clock := ⟨now⟩
    output := stage.output
    bus := stage.bus
    trace := #[] }

/-- The stage with a clock that stands still. -/
def Stage.frozen {σ ω : Type} (stage : Stage σ ω) (now : Nat) : Stage Still ω :=
  { stage.still now with trace := stage.trace }

/-- Where every step is the only one, two ways to an end come to the same. -/
theorem eq_of_halts {α : Type} {goes : α → α → Prop} (unique : Relator.RightUnique goes)
    {first last other : α} (way : Relation.ReflTransGen goes first last)
    (wayOther : Relation.ReflTransGen goes first other) (halts : ∀ next, ¬goes last next)
    (haltsOther : ∀ next, ¬goes other next) : last = other := by
  rcases way.total_of_right_unique unique wayOther with onward | onward
  · exact onward.cases_head.elim id fun ⟨_, step, _⟩ => absurd step (halts _)
  · exact (onward.cases_head.elim id fun ⟨_, step, _⟩ => absurd step (haltsOther _)).symm

namespace Player

/-- The player without the handle of its timer. -/
def aspect (player : Player) : Player :=
  { player with waiting := player.waiting.map fun wait => { wait with handle := 0 } }

theorem aspect_of_free {player : Player} (free : player.waiting = none) : player.aspect = player := by
  rw [aspect, free, Option.map_none, ← free]

theorem aspect_waiting (player : Player) :
    player.aspect.waiting = player.waiting.map fun wait => { wait with handle := 0 } := rfl

end Player

section Plans

variable {ω : Type}

theorem Player.arm_still {player : Player} (free : player.waiting = none) (still : Stage Still ω)
    (delay : Nat) (resume : Step) (curve : Option Curve) : player.arm still delay resume curve =
      some ({ player with waiting := some ⟨0, resume, still.now, delay, curve, false⟩ }, still) := by
  simp only [arm, await, free]
  rfl

theorem Player.armYield_still {player : Player} (free : player.waiting = none) (still : Stage Still ω)
    (resume : Step) : player.armYield still resume =
      some ({ player with waiting := some ⟨0, resume, still.now, 0, none, true⟩ }, still) := by
  simp only [armYield, await, free]
  rfl

variable [Output ω]

theorem Outlook.wait?_aspect (outlook : Outlook) (handle now : Nat) :
    (outlook.wait? handle now).map (fun wait => { wait with handle := 0 }) = outlook.wait? 0 now := by
  cases outlook <;> rfl

theorem Plan.settle_still {plan : Plan} (free : plan.later.waiting = none) (still : Stage Still ω) :
    plan.settle still = some ({ plan.later with waiting := plan.outlook.wait? 0 still.now },
      still.record plan.later.id plan.deeds) := by
  unfold settle Outlook.finish
  cases plan.outlook with
  | goesOn next => exact Player.armYield_still free _ next
  | waits delay resume curve => exact Player.arm_still free _ delay resume curve
  | rests =>
    simp only [Outlook.wait?]
    rw [← free]

end Plans

namespace Player

variable {ω : Type} [Output ω] {alike : ω → ω → Prop} {player later : Player}
  {stage shown : Stage TimerQueue ω} {still : Stage Still ω}

theorem drive_still {first : Step} {fresh : Bool} (player : Player) (free : player.waiting = none)
    (blurs : player.act.Blurs alike) (looks : stage.Alike alike still)
    (driven : player.drive stage first fresh = some (later, shown)) :
    ∃ deeds, player.Conducts stage shown deeds ∧
      player.drive still first fresh = some (later.aspect, still.record player.id deeds) := by
  obtain ⟨plan, suits, plays, settles⟩ := drive_plan player free blurs stage first fresh
  rw [settles stage ⟨rfl, rfl, rfl, blurs.refl stage.output⟩] at driven
  obtain ⟨handle, clock, now, rfl, rfl⟩ := plan.settle_cases suits.free driven
  refine ⟨plan.deeds, ⟨by rw [suits.id]; rfl, plays, now⟩, ?_⟩
  rw [settles still looks, plan.settle_still suits.free, suits.id, looks.now,
    ← plan.outlook.wait?_aspect handle]
  rfl

theorem stop_still (player : Player) (stage : Stage TimerQueue ω) (still : Stage Still ω) :
    player.aspect.stop still =
      ((player.stop stage).1.aspect, still.record player.id (player.farewell.map .event)) := by
  have emitted (event : Event) : still.emit event = still.record event.player [.event event] :=
    still.emit_eq_record event
  rw [stop_fst]
  unfold stop farewell
  rw [show player.aspect.playing = player.playing from rfl]
  cases player.playing with
  | false =>
    rw [if_neg Bool.false_ne_true, if_neg Bool.false_ne_true, if_neg Bool.false_ne_true, List.map_nil,
      Stage.record_nil]
  | true =>
    rw [if_pos rfl, if_pos rfl, if_pos rfl, finish, aspect_waiting]
    cases player.waiting with
    | none => exact congrArg _ (emitted _)
    | some wait => exact congrArg _ (emitted _)

theorem start_still (still : Stage Still ω) (idle : player.playing = false → player.waiting = none)
    (blurs : player.act.Blurs alike) (looks : stage.Alike alike still) {result : Except Fault Unit}
    (started : player.start stage = some (result, later, shown)) :
    ∃ deeds, player.Conducts stage shown deeds ∧
      player.aspect.start still = some (result, later.aspect, still.record player.id deeds) := by
  have stopped := player.stop_conducts stage
  have starts := player.aspect.start_eq still
  rw [player.stop_still stage still] at starts
  have act : (player.stop stage).1.aspect.act = player.act := player.stop_act stage
  have named : (player.stop stage).1.aspect.id = player.id := player.stop_id stage
  rcases start_cases started with ⟨absent, rfl, rfl, rfl, -⟩ | ⟨node, found, rfl, driven, -⟩
  · have refused : player.Conducts (player.stop stage).2 _ _ := .tells (player.stop stage).2
      [.stopped player.id player.act.id (.fault .emptyGraph)] (by simp [Event.IsAside]) rfl
    rw [Stage.emit_eq_record]
    refine ⟨_, stopped.trans refused, ?_⟩
    rw [starts]
    simp only [act, absent]
    rw [named, Stage.emit_eq_record, Stage.record_append]
    rfl
  · have free : (player.stop stage).1.waiting = none := by
      rw [stop_fst]
      split
      · rfl
      next still => exact idle (by simpa using still)
    have looks := stopped.alike looks blurs.toLikeness
    obtain ⟨deeds, conducts, drives⟩ := drive_still
      ((player.stop stage).1.begun (player.stop stage).2) free
      (by rw [show ((player.stop stage).1.begun _).act = player.act from act]; exact blurs) looks driven
    refine ⟨_, stopped.trans (Conducts.congr
      ((player.stop stage).1.begun (player.stop stage).2) (player.stop_id stage)
      (player.stop_act stage) conducts), ?_⟩
    have begins : (player.stop stage).1.aspect.begun
        (still.record player.id (player.farewell.map .event)) =
          (player.stop stage).1.begun (player.stop stage).2 := by
      rw [aspect_of_free free, begun, begun, looks.now]
    rw [starts]
    simp only [act, found]
    rw [begins, drives, Stage.record_append,
      show ((player.stop stage).1.begun _).id = player.id from player.stop_id stage]
    rfl

theorem onTimer_still {token : Token} (still : Stage Still ω) (blurs : player.act.Blurs alike)
    (looks : stage.Alike alike still) (answer : player.onTimer stage token = some (later, shown)) :
    ∃ deeds, player.Conducts stage shown deeds ∧
      player.aspect.onTimer still token = some (later.aspect, still.record player.id deeds) := by
  unfold onTimer at answer ⊢
  rw [show player.aspect.token = player.token from rfl,
    show player.aspect.playing = player.playing from rfl]
  split at answer
  next stale =>
    obtain ⟨rfl, rfl⟩ := Prod.mk.inj (Option.some.inj answer)
    exact ⟨[], .refl _ _, by rw [if_pos stale, Stage.record_nil]⟩
  next current =>
    rw [if_neg current, aspect_waiting]
    cases waiting : player.waiting with
    | none =>
      rw [waiting] at answer
      obtain ⟨rfl, rfl⟩ := Prod.mk.inj (Option.some.inj answer)
      exact ⟨[], .refl _ _, by rw [Stage.record_nil]; rfl⟩
    | some wait =>
      rw [waiting] at answer
      obtain ⟨deeds, conducts, drives⟩ :=
        drive_still { player with waiting := none } rfl blurs looks answer
      exact ⟨deeds, Conducts.congr { player with waiting := none } rfl rfl conducts, drives⟩

/-- What comes of a call does not depend on the clock, nor on the handle of a timer. -/
theorem answer_still {call : Call} (still : Stage Still ω)
    (idle : player.playing = false → player.waiting = none) (blurs : player.act.Blurs alike)
    (looks : stage.Alike alike still) (answer : player.answer stage call = some (later, shown)) :
    ∃ deeds, player.Conducts stage shown deeds ∧
      player.aspect.answer still call = some (later.aspect, still.record player.id deeds) := by
  cases call with
  | stop =>
    rw [Player.answer, Option.some.injEq] at answer
    have conducts := player.stop_conducts stage
    have stopped := player.stop_still stage still
    rw [answer] at conducts stopped
    exact ⟨_, conducts, congrArg some stopped⟩
  | start =>
    obtain ⟨result, started⟩ := Player.answer_start_iff.1 answer
    obtain ⟨deeds, conducts, starts⟩ := start_still still idle blurs looks started
    exact ⟨deeds, conducts, Player.answer_start starts⟩
  | timer token => exact onTimer_still still blurs looks answer

theorem answer_conducts {call : Call} (idle : player.playing = false → player.waiting = none)
    (answer : player.answer stage call = some (later, shown)) :
    ∃ deeds, player.Conducts stage shown deeds := by
  obtain ⟨deeds, conducts, -⟩ := answer_still (stage.still stage.now) idle player.act.blurs_eq
    ⟨rfl, rfl, rfl, rfl⟩ answer
  exact ⟨deeds, conducts⟩

end Player

end LightingDesk
