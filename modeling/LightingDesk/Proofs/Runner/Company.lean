import LightingDesk.Proofs.Playback.Overflow
import LightingDesk.Proofs.Playback.Slices
import LightingDesk.Proofs.Runner.Cue

/-!
The acts of a runner, and those that its host has played besides. What holds of all of them goes on to hold,
whatever happens to the runner (`Runner.Company.run`): that no other act goes by the id of one of its own,
and that none of them asks for a delay for which there is no time.
-/

namespace LightingDesk

/-- The act goes by the id of one of these acts only if it is that act. -/
def Act.FitsIn (acts : List Act) (act : Act) : Prop := ∀ own ∈ acts, own.id = act.id → own = act

theorem Act.fitsIn_of_mem {acts : List Act} (distinct : (acts.map Act.id).Nodup) {act : Act}
    (known : act ∈ acts) : act.FitsIn acts := fun _ member same =>
  List.inj_on_of_nodup_map distinct member known same

/-- What the request has loaded, if anything, has a property. -/
def Request.LoadsOnly {ω : Type} (P : Act → Prop) : Request ω → Prop
  | .load act | .play act => P act
  | _ => True

namespace Session

variable {session later : Session Universe} {act : Act} {P : Act → Prop} {now : Nat}

/-- Whatever is played in the session has a property. -/
def PlaysOnly (P : Act → Prop) (session : Session Universe) : Prop :=
  ∀ player ∈ session.players, P player.act

theorem PlaysOnly.perform (plays : session.PlaysOnly P) (reachable : session.Reachable)
    (request : Request Universe) (asks : request.LoadsOnly P)
    (answer : session.perform request = some later) : later.PlaysOnly P := by
  obtain ⟨log, lives⟩ := reachable.lives
  refine lives.perform_rule (P := PlaysOnly P) ?_ ?_ ?_ answer
  · intro middle last log lives plays moved player member
    obtain ⟨log, reached⟩ := lives.moves moved
    exact lives.acts_of_moves (P := fun _ act => P act)
      (fun id player found => plays player (mem_of_player? found)) moved player.id player
      (reached.player?_of_mem member)
  · intro change
    cases request with
    | changeSignals | changeScenes | changeOutput | changeBus =>
      obtain rfl := Option.some.inj answer
      exact plays
    | _ => exact change.elim
  · cases request with
    | load act | play act =>
      intro player member
      rcases List.mem_append.1 member with before | new
      · exact plays player before
      · exact List.mem_singleton.1 new ▸ asks
    | _ => exact plays

theorem Reachable.advanceTo_isSome (reachable : session.Reachable)
    (early : max now session.now ≤ Span.longest)
    (room : session.PlaysOnly fun act => ¬act.Overruns (max now session.now)) :
    (session.advanceTo now).isSome = true := by
  obtain ⟨log, run⟩ := reachable
  exact run.timely.fireWindow_isSome (le_max_right _ _) early room

theorem Reachable.cue_isSome (reachable : session.Reachable) (own : session.PlaysAs act)
    (early : session.now ≤ Span.longest) (room : session.PlaysOnly fun act => ¬act.Overruns session.now)
    (roomy : ¬act.Overruns session.now) :
    ((session.boarded (session.cue act)).start (session.cued act)).isSome = true := by
  obtain ⟨player, boards⟩ := reachable.boards own
  have now : (session.boarded (session.cue act)).now = session.now :=
    congrArg (fun stage => stage.clock.now) boards.stage
  have boarded : (session.boarded (session.cue act)).PlaysOnly fun act => ¬act.Overruns session.now := by
    unfold cue
    split
    next => exact room
    next => exact room.perform reachable (.load act) roomy rfl
  obtain ⟨log, run⟩ := boards.reachable
  refine run.timely.start_isSome _ (now ▸ early) fun player member => ?_
  exact now ▸ boarded player member

end Session

namespace Runner

open Relation Session

variable {κ : Type} [ArtNet.Link κ] {acts : List Act} {P : Act → Prop} {runner later : Runner κ}

/-- A runner of some acts, which have a property like everything else that is played in its session. -/
structure Company (acts : List Act) (P : Act → Prop) (runner : Runner κ) : Prop where
  reachable : runner.session.Reachable
  same : runner.acts = acts
  own : ∀ act ∈ acts, P act
  plays : runner.session.PlaysOnly P

namespace Company

omit [ArtNet.Link κ] in
theorem perform {session : Session Universe} (company : Company acts P runner)
    (request : Request Universe) (asks : request.LoadsOnly P)
    (answer : runner.session.perform request = some session) :
    Company acts P { runner with session } where
  reachable := company.reachable.perform request answer
  same := company.same
  own := company.own
  plays := company.plays.perform company.reachable request asks answer

theorem flush (company : Company acts P runner) (now : Nat) : Company acts P (runner.flush now) := by
  obtain ⟨sender, unsent, same⟩ := runner.exists_flush_eq now
  have collected := company.reachable.perform
    (.changeOutput fun _ => runner.session.stage.output.takeDirty.2) rfl
  rw [same]
  exact ⟨collected, company.same, company.own, company.plays⟩

theorem moves (company : Company acts P runner) (moves : runner.Moves later) : Company acts P later := by
  cases moves with
  | flush now => exact company.flush now
  | ask asks answer =>
    refine company.perform _ ?_ answer
    cases asks with
    | catchUp | stop | stopAll | changeSignals => trivial
    | cue known =>
      unfold Session.cue
      split
      next => trivial
      next => exact company.own _ (company.same ▸ known)

theorem movesTo (company : Company acts P runner) (moves : ReflTransGen Moves runner later) :
    Company acts P later := by
  induction moves with
  | refl => exact company
  | tail _ next ih => exact ih.moves next

theorem run (company : Company acts P runner) (run : Run (Request.LoadsOnly P) runner later) :
    Company acts P later :=
  run.rule (fun company moves => company.moves moves)
    (fun company asks answer => company.perform _ asks answer) company

omit [ArtNet.Link κ] in
theorem playsAs {act : Act} (company : Company acts (Act.FitsIn acts) runner) (known : act ∈ acts) :
    runner.session.PlaysAs act := fun player member same =>
  (company.plays player member act known same.symm).symm

end Company

end Runner

end LightingDesk
