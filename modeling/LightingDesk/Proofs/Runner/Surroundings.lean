import LightingDesk.Proofs.Playback.Cast
import LightingDesk.Proofs.Playback.Sight
import LightingDesk.Proofs.Runner.Run

/-!
What stays of a session. Players set levels and tell events, but signals, scenes and the patch of the
universe stay as their host has set them, whatever it asks of the session otherwise
(`Session.Lives.surroundings`), and putting on an act leaves every player with the act that it plays
(`Runner.continues_startAct`).
-/

namespace LightingDesk

namespace Session

section Reachable

variable {ω : Type} [Output ω] {session later : Session ω}

theorem Reachable.perform (reachable : session.Reachable) (request : Request ω)
    (answer : session.perform request = some later) : later.Reachable := by
  obtain ⟨log, run⟩ := reachable
  exact ⟨_, run.perform request answer⟩

theorem Reachable.lives (reachable : session.Reachable) : ∃ log, Lives session log := by
  obtain ⟨log, run⟩ := reachable
  exact ⟨log, Lives.kept.run run⟩

end Reachable

/-- What players cannot change is the same in a later session. -/
structure Surroundings (session later : Session Universe) : Prop where
  scenes : later.stage.scenes = session.stage.scenes
  signals : later.stage.signals = session.stage.signals
  patch : session.stage.output.SamePatch later.stage.output

variable {session middle later : Session Universe} {log : List (Moment TimerQueue Universe)}

theorem Surroundings.refl (session : Session Universe) : Surroundings session session :=
  ⟨rfl, rfl, .refl _⟩

theorem Surroundings.trans (first : Surroundings session middle) (second : Surroundings middle later) :
    Surroundings session later :=
  ⟨second.scenes.trans first.scenes, second.signals.trans first.signals, first.patch.trans second.patch⟩

theorem Lives.surroundings_moves (lives : Lives session log) (moves : session.Moves later) :
    Surroundings session later := by
  cases moves with
  | remove | clock => exact ⟨rfl, rfl, .refl _⟩
  | @call id player reached shown call found answer =>
    obtain ⟨deeds, conducts⟩ := lives.conducts found answer
    have played : (session.replace reached shown).stage =
      (session.stage.record player.id deeds).withClock shown.clock := conducts.records
    constructor
    case scenes =>
      rw [played]
      rfl
    case signals =>
      rw [played]
      rfl
    case patch =>
      rw [played]
      exact .record _ deeds

theorem Lives.surroundings {request : Request Universe} (lives : Lives session log)
    (own : ¬request.IsChange) (answer : session.perform request = some later) :
    Surroundings session later := by
  refine lives.perform_rule (P := Surroundings session) ?_ (absurd · own) ?_ answer
  · intro middle last log lives same moved
    exact same.trans (lives.surroundings_moves moved)
  · cases request <;> exact ⟨rfl, rfl, .refl _⟩

/-- What stays of a session, whatever acts are put on in it. -/
structure Continues (session later : Session Universe) : Prop where
  reachable : later.Reachable
  cast : session.cast <+: later.cast
  surroundings : Surroundings session later

namespace Continues

theorem refl (reachable : session.Reachable) : Continues session session :=
  ⟨reachable, List.prefix_rfl, .refl session⟩

theorem trans (first : Continues session middle) (second : Continues middle later) :
    Continues session later :=
  ⟨second.reachable, first.cast.trans second.cast, first.surroundings.trans second.surroundings⟩

theorem perform (reachable : session.Reachable) (request : Request Universe)
    (own : ¬request.IsChange) (stays : ¬request.Unloads)
    (answer : session.perform request = some later) : Continues session later := by
  obtain ⟨log, lives⟩ := reachable.lives
  have grown := lives.cast_perform request stays answer
  exact ⟨reachable.perform request answer, grown ▸ List.prefix_append _ _, lives.surroundings own answer⟩

theorem cue {act : Act} (reachable : session.Reachable)
    (answer : session.perform (session.cue act) = some later) : Continues session later := by
  refine perform reachable _ ?_ ?_ answer
  all_goals
    unfold Session.cue
    split
    next => exact id
    next => exact id

end Continues

end Session

namespace Runner

open Session

variable {κ : Type} [ArtNet.Link κ] {runner later : Runner κ} {clock : Clock}

theorem continues_flush (runner : Runner κ) (reachable : runner.session.Reachable) (now : Nat) :
    Continues runner.session (runner.flush now).session := by
  have collected := reachable.perform
    (.changeOutput fun _ => runner.session.stage.output.takeDirty.2) rfl
  obtain ⟨sender, unsent, same⟩ := runner.exists_flush_eq now
  rw [same]
  exact ⟨collected, List.prefix_rfl, rfl, rfl, rfl, rfl⟩

theorem continues_startAct {key : String} {result : Except RunnerError PlayerId}
    (reachable : runner.session.Reachable)
    (answer : runner.startAct clock key = some (result, later)) :
    Continues runner.session later.session := by
  obtain ⟨synced, advanced, rest⟩ := startAct_cases answer
  have passes : Continues runner.session synced :=
    .perform reachable (.advanceTo clock.now) id id advanced
  rcases rest with ⟨-, -, rfl⟩ | ⟨act, begun, -, cued, rest⟩
  · exact passes
  · have called := passes.trans (.cue passes.reachable cued)
    rcases rest with ⟨-, -, rfl⟩ | ⟨-, rfl⟩
    · exact called
    · exact called.trans (continues_flush { runner with session := begun } called.reachable _)

end Runner

end LightingDesk
