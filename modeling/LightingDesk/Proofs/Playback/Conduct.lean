import LightingDesk.Proofs.Playback.Career
import LightingDesk.Proofs.Playback.Deeds
import LightingDesk.Proofs.Playback.Pace

/-!
What players do on a stage in the course of a call: the deeds of its steps, one after the other
(`Player.Plays`). A run of steps comes to one plan, like each of them (`Player.drive_plan`), which leaves
nothing on the stage but its deeds and a changed clock (`Plan.settle_cases`).
-/

namespace LightingDesk

section Runs

variable {σ ω : Type} [Scheduler σ] [Output ω]

/-- The end of a run of steps that comes to an outlook: a step that is left over waits for the next
run. -/
def Outlook.finish (outlook : Outlook) (player : Player) (stage : Stage σ ω) :
    Option (Player × Stage σ ω) :=
  match outlook with
  | .goesOn next => player.armYield stage next
  | .waits delay resume curve => player.arm stage delay resume curve
  | .rests => some (player, stage)

/-- A run of steps taken on a stage as planned. -/
def Plan.settle (plan : Plan) (stage : Stage σ ω) : Option (Player × Stage σ ω) :=
  plan.outlook.finish plan.later (stage.record plan.later.id plan.deeds)

/-- What a player does on a stage, step by step. -/
inductive Player.Plays (player : Player) : Stage σ ω → List Deed → Prop where
  | nil {stage} : Plays player stage []
  | step {stage step deeds more} (does : player.Does stage step deeds)
      (rest : Plays player (stage.record player.id deeds) more) : Plays player stage (deeds ++ more)

namespace Player

variable {player moved : Player} {stage : Stage σ ω} {alike : ω → ω → Prop}

theorem Does.congr {step : Step} {deeds : List Deed} (moved : Player) (id : moved.id = player.id)
    (act : moved.act = player.act) (does : moved.Does stage step deeds) :
    player.Does stage step deeds := by
  cases does with
  | @enters node' node found =>
    have same : moved.entry stage node' node.kind = player.entry stage node' node.kind := by
      unfold entry scenery
      rw [id, act]
    rw [act] at found
    rw [same]
    exact .enters found
  | tells events aside =>
    rw [id, act] at aside
    exact .tells events aside

theorem Plays.congr {deeds : List Deed} (moved : Player) (id : moved.id = player.id)
    (act : moved.act = player.act) (plays : moved.Plays stage deeds) : player.Plays stage deeds := by
  induction plays with
  | nil => exact .nil
  | step does rest ih => exact .step (does.congr moved id act) (id ▸ ih)

theorem Does.seen {τ : Type} [Scheduler τ] {other : Stage τ ω} {step : Step} {deeds : List Deed}
    (likeness : Output.Likeness alike) (same : alike stage.output other.output)
    (scenes : other.scenes = stage.scenes) (does : player.Does other step deeds) :
    player.Does stage step deeds := by
  cases does with
  | @enters id node found =>
    have entry : player.entry other id node.kind = player.entry stage id node.kind := by
      unfold entry
      cases node.kind with
      | scene payload => exact congrArg _ (likeness.scenery same scenes player id payload)
      | _ => rfl
    rw [entry]
    exact .enters found
  | tells events aside => exact .tells events aside

/-- What a player does depends on the scenes and on how they are muted. -/
theorem Plays.seen {τ : Type} [Scheduler τ] {other : Stage τ ω} {deeds : List Deed}
    (likeness : Output.Likeness alike) (same : alike stage.output other.output)
    (scenes : other.scenes = stage.scenes) (plays : player.Plays other deeds) :
    player.Plays stage deeds := by
  induction plays generalizing stage with
  | nil => exact .nil
  | step does rest ih =>
    exact .step (does.seen likeness same scenes) (ih (likeness.record same _) scenes)

theorem Plays.append {deeds more : List Deed} (plays : player.Plays stage deeds)
    (rest : player.Plays (stage.record player.id deeds) more) : player.Plays stage (deeds ++ more) := by
  induction plays with
  | nil => simpa using rest
  | step does _ ih =>
    rw [Stage.record_append] at rest
    rw [List.append_assoc]
    exact .step does (ih rest)

omit [Scheduler σ] in
theorem run_succ {τ : Type} [Scheduler τ] (steps : Nat) (player : Player) (stage : Stage τ ω)
    (step : Step) : run (steps + 1) player stage step =
      (player.counted.execute stage step).bind fun (later, shown, next) =>
        match next with
        | none => some (later, shown)
        | some next => run steps later shown next := by
  rw [run]
  unfold counted
  cases { player with burstSteps := player.burstSteps + 1, steps := player.steps + 1 }.execute stage
      step with
  | none => rfl
  | some turn =>
    obtain ⟨later, shown, next⟩ := turn
    cases next <;> rfl

theorem run_plan (player : Player) (free : player.waiting = none) (blurs : player.act.Blurs alike)
    (steps : Nat) (stage : Stage σ ω) (step : Step) :
    ∃ plan : Plan, plan.Suits player ∧ player.Plays stage plan.deeds ∧
      ∀ {τ : Type} [Scheduler τ] (other : Stage τ ω), stage.Alike alike other →
        run steps player other step = plan.settle other := by
  induction steps generalizing player stage step with
  | zero =>
    refine ⟨⟨[], player, .goesOn step⟩, ⟨rfl, rfl, free⟩, .nil, ?_⟩
    intro τ _ other _
    rw [Plan.settle, Stage.record_nil]
    rfl
  | succ steps ih =>
    obtain ⟨plan, suits, does, executes⟩ :=
      execute_plan player.counted free blurs stage step
    let first := plan.granted player.counted.grant
    have taken {τ : Type} [Scheduler τ] (other : Stage τ ω) (looks : stage.Alike alike other) :
        player.counted.execute other step = first.enact other :=
      executes other player.counted.grant looks
    have id : first.later.id = player.id := suits.id
    have does : player.Does stage step first.deeds := Does.congr player.counted rfl rfl does
    have unfolds {τ : Type} [Scheduler τ] (other : Stage τ ω) (looks : stage.Alike alike other) :=
      taken other looks ▸ run_succ steps player other step
    have one : player.Plays stage first.deeds := by
      have single := Plays.step does .nil
      rwa [List.append_nil] at single
    cases outlook : first.outlook with
    | rests =>
      refine ⟨first, ⟨suits.id, suits.act, suits.free⟩, one, ?_⟩
      intro τ _ other looks
      rw [unfolds other looks, Plan.enact, Plan.settle, outlook]
      rfl
    | waits delay resume curve =>
      refine ⟨first, ⟨suits.id, suits.act, suits.free⟩, one, ?_⟩
      intro τ _ other looks
      rw [unfolds other looks, Plan.enact, Plan.settle, outlook]
      simp only [Outlook.turn, Outlook.finish, pause]
      cases first.later.arm (other.record first.later.id first.deeds) delay resume curve with
      | none => rfl
      | some armed => rfl
    | goesOn next =>
      obtain ⟨second, follows, plays, settles⟩ := ih first.later suits.free
        (by rw [show first.later.act = player.act from suits.act]; exact blurs)
        (stage.record player.id first.deeds) next
      refine ⟨{ second with deeds := first.deeds ++ second.deeds },
        ⟨follows.id.trans id, follows.act.trans suits.act, follows.free⟩, ?_, ?_⟩
      · exact .step does (Plays.congr first.later id suits.act plays)
      · intro τ _ other looks
        have after := settles _ (looks.record blurs.toLikeness player.id first.deeds)
        rw [unfolds other looks, Plan.enact, outlook, id]
        simp only [Outlook.turn, goOn, Option.bind_some]
        rw [after, Plan.settle, Plan.settle, Stage.record_append, follows.id, id]

theorem drive_plan (player : Player) (free : player.waiting = none) (blurs : player.act.Blurs alike)
    (stage : Stage σ ω) (first : Step) (fresh : Bool) :
    ∃ plan : Plan, plan.Suits player ∧ player.Plays stage plan.deeds ∧
      ∀ {τ : Type} [Scheduler τ] (other : Stage τ ω), stage.Alike alike other →
        player.drive other first fresh = plan.settle other := by
  obtain ⟨burstAt, burstSteps, same⟩ := player.burst_eq stage fresh
  obtain ⟨plan, suits, plays, settles⟩ := run_plan (player.burst stage fresh)
    (by rw [same]; exact free) (by rw [same]; exact blurs)
    ((player.burst stage fresh).settings.budget - (player.burst stage fresh).burstSteps) stage first
  have id : (player.burst stage fresh).id = player.id := by rw [same]
  have act : (player.burst stage fresh).act = player.act := by rw [same]
  refine ⟨plan, ⟨suits.id.trans id, suits.act.trans act, suits.free⟩, plays.congr _ id act, ?_⟩
  intro τ _ other looks
  have burst : player.burst other fresh = player.burst stage fresh := by
    rw [burst, burst, looks.now]
  rw [← settles other looks, ← burst]
  rfl

end Player

end Runs

/-! ### Calls -/

section Calls

variable {ω : Type} [Output ω] {player moved later : Player} {stage shown last : Stage TimerQueue ω}
  {deeds more : List Deed}

theorem Stage.withClock_record (stage : Stage TimerQueue ω) {clock : TimerQueue}
    (now : clock.now = stage.clock.now) (id : PlayerId) (deeds : List Deed) :
    (stage.withClock clock).record id deeds = (stage.record id deeds).withClock clock := by
  have same : (stage.withClock clock).now = stage.now := now
  rw [record, same]
  rfl

/-- The wait of a player who comes to an outlook. -/
def Outlook.wait? (outlook : Outlook) (handle now : Nat) : Option Wait :=
  match outlook with
  | .goesOn next => some ⟨handle, next, now, 0, none, true⟩
  | .waits delay resume curve => some ⟨handle, resume, now, delay, curve, false⟩
  | .rests => none

theorem Plan.settle_cases {plan : Plan} (free : plan.later.waiting = none)
    (settled : plan.settle stage = some (later, shown)) :
    ∃ handle clock, clock.now = stage.clock.now ∧
      shown = (stage.record plan.later.id plan.deeds).withClock clock ∧
      later = { plan.later with waiting := plan.outlook.wait? handle stage.clock.now } := by
  unfold settle Outlook.finish at settled
  unfold Outlook.wait?
  split at settled
  next next =>
    obtain ⟨handle, clock, scheduled, rfl, shown⟩ := Player.armYield_eq_some free settled
    obtain ⟨-, rfl⟩ := TimerQueue.arm?_eq_some scheduled
    refine ⟨handle, _, ?_, shown, rfl⟩
    rfl
  next delay resume curve =>
    obtain ⟨handle, clock, scheduled, rfl, shown⟩ := Player.arm_eq_some free settled
    obtain ⟨-, rfl⟩ := TimerQueue.arm?_eq_some scheduled
    refine ⟨handle, _, ?_, shown, rfl⟩
    rfl
  next =>
    obtain ⟨rfl, rfl⟩ := Prod.mk.inj (Option.some.inj settled)
    refine ⟨0, stage.clock, rfl, rfl, ?_⟩
    rw [← free]

/-- The clock when a player has been stopped. -/
def Player.release (player : Player) (clock : TimerQueue) : TimerQueue :=
  match player.playing, player.waiting with
  | true, some wait => clock.cancel wait.handle
  | _, _ => clock

theorem Player.release_now (player : Player) (clock : TimerQueue) :
    (player.release clock).now = clock.now := by
  unfold release
  split
  · rfl
  · rfl

omit [Output ω] in
theorem Player.stop_snd [Output ω] (player : Player) (stage : Stage TimerQueue ω) :
    (player.stop stage).2 = (stage.record player.id (player.farewell.map .event)).withClock
      (player.release stage.clock) := by
  have released (clock : TimerQueue) (now : clock.now = stage.clock.now) (event : Event) :
      (stage.withClock clock).emit event = (stage.record event.player [.event event]).withClock clock := by
    rw [Stage.emit_eq_record, Stage.withClock_record stage now]
  unfold stop finish farewell release
  cases player.playing with
  | false =>
    rw [if_neg Bool.false_ne_true, if_neg Bool.false_ne_true, List.map_nil, Stage.record_nil]
    rfl
  | true =>
    rw [if_pos rfl, if_pos rfl]
    cases player.waiting with
    | none => exact released stage.clock rfl _
    | some wait => exact released (stage.clock.cancel wait.handle) rfl _

/-- From one state of a stage to a later one, a player has done these deeds, and else only the clock has
changed. -/
structure Player.Conducts (player : Player) (stage shown : Stage TimerQueue ω) (deeds : List Deed) :
    Prop where
  records : shown = (stage.record player.id deeds).withClock shown.clock
  plays : player.Plays stage deeds
  now : shown.clock.now = stage.clock.now

namespace Player

theorem Conducts.congr (moved : Player) (id : moved.id = player.id) (act : moved.act = player.act)
    (conducts : moved.Conducts stage shown deeds) : player.Conducts stage shown deeds :=
  ⟨id ▸ conducts.records, conducts.plays.congr moved id act, conducts.now⟩

theorem Conducts.trans (first : player.Conducts stage shown deeds)
    (second : player.Conducts shown last more) : player.Conducts stage last (deeds ++ more) where
  records := by
    have before : shown.record player.id more =
        (stage.record player.id (deeds ++ more)).withClock shown.clock := by
      have after := (stage.record player.id deeds).withClock_record first.now player.id more
      rwa [← first.records, ← Stage.record_append] at after
    have after := second.records
    rw [before] at after
    exact after
  plays := by
    have output : (stage.record player.id deeds).output = shown.output := by rw [first.records]; rfl
    have scenes : shown.scenes = stage.scenes := by rw [first.records]; rfl
    exact first.plays.append (second.plays.seen Output.likeness_eq output scenes)
  now := second.now.trans first.now

theorem Conducts.alike {τ : Type} [Scheduler τ] {alike : ω → ω → Prop} {other : Stage τ ω}
    (conducts : player.Conducts stage shown deeds) (looks : stage.Alike alike other)
    (likeness : Output.Likeness alike) : shown.Alike alike (other.record player.id deeds) := by
  have recorded := looks.record likeness player.id deeds
  rw [conducts.records]
  exact ⟨recorded.now.trans conducts.now.symm, recorded.scenes, recorded.signals, recorded.output⟩

theorem Conducts.tells (stage : Stage TimerQueue ω) (events : List Event)
    (aside : ∀ event ∈ events, event.IsAside player.id player.act.id) {clock : TimerQueue}
    (now : clock.now = stage.clock.now) :
    player.Conducts stage ((stage.record player.id (events.map .event)).withClock clock)
      (events.map .event) := by
  have does : player.Does stage (.complete .first) (events.map .event) := .tells events aside
  have plays : player.Plays stage (events.map .event ++ []) := .step does .nil
  rw [List.append_nil] at plays
  exact ⟨rfl, plays, now⟩

theorem Conducts.refl (player : Player) (stage : Stage TimerQueue ω) : player.Conducts stage stage [] :=
  ⟨by rw [Stage.record_nil]; rfl, .nil, rfl⟩

theorem stop_conducts (player : Player) (stage : Stage TimerQueue ω) :
    player.Conducts stage (player.stop stage).2 (player.farewell.map .event) := by
  rw [stop_snd]
  refine .tells stage player.farewell ?_ (player.release_now stage.clock)
  unfold farewell
  split
  · simp [Event.IsAside]
  · simp

end Player

end Calls

end LightingDesk
