import LightingDesk.Proofs.Playback.Request
import LightingDesk.Runner
import Mathlib.Logic.Relation

/-!
What a runner does, operation by operation. All of it comes down to two moves: it asks its session for
something, and it flushes the universe (`Runner.Run.rule`).
-/

namespace LightingDesk

/-- What to ask of a session so that an act is played, by the player that it had before if it had one. -/
def Session.cue {ω : Type} (session : Session ω) (act : Act) : Request ω :=
  match session.playerFor? act.id with
  | some player => .start player
  | none => .play act

/-- The player that plays an act on its cue. -/
def Session.cued {ω : Type} (session : Session ω) (act : Act) : PlayerId :=
  (session.playerFor? act.id).getD (session.load act).1

namespace Runner

open Relation

variable {κ : Type} [ArtNet.Link κ]

/-- What a runner asks of its session. -/
inductive Asks (runner : Runner κ) : Request Universe → Prop where
  | catchUp (now : Nat) : Asks runner (.advanceTo now)
  | cue {act : Act} (known : act ∈ runner.acts) : Asks runner (runner.session.cue act)
  | stop (player : PlayerId) : Asks runner (.stop player)
  | stopAll : Asks runner .stopAll
  | changeSignals (change : SignalBoard → SignalBoard) : Asks runner (.changeSignals change)

/-- The moves that every operation of a runner is made of. -/
inductive Moves (runner : Runner κ) : Runner κ → Prop where
  | ask {request session} (asks : runner.Asks request)
      (answer : runner.session.perform request = some session) : Moves runner { runner with session }
  | flush (now : Nat) : Moves runner (runner.flush now)

variable {runner middle later : Runner κ} {now : Nat} {clock : Clock}

omit [ArtNet.Link κ] in
theorem mem_of_find? {key : String} {act : Act} (found : runner.find? key = some act) :
    act ∈ runner.acts := by
  unfold find? findAct? at found
  split at found
  next other named => exact Option.some.inj found ▸ List.mem_of_find?_eq_some named
  next => exact List.mem_of_find?_eq_some found

omit [ArtNet.Link κ] in
/-- A key that is the id of an act stands for that act. -/
theorem find?_id {act : Act} (distinct : (runner.acts.map Act.id).Nodup) (known : act ∈ runner.acts) :
    runner.find? act.id.text = some act := by
  unfold find? findAct?
  cases found : runner.acts.find? fun other => other.id.text == act.id.text with
  | none => simpa using List.find?_eq_none.1 found act known
  | some other =>
    have text : other.id.text = act.id.text := by simpa using List.find?_some found
    have same : other.id = act.id := by
      rw [ActId.mk.injEq]
      exact text
    exact congrArg some (List.inj_on_of_nodup_map distinct (List.mem_of_find?_eq_some found) known same)

omit [ArtNet.Link κ] in
theorem syncClock_eq_some (answer : runner.syncClock now = some later) :
    ∃ synced, runner.session.advanceTo now = some synced ∧ later = { runner with session := synced } := by
  obtain ⟨synced, advanced, rfl⟩ := Option.map_eq_some_iff.1 answer
  exact ⟨synced, advanced, rfl⟩

/-- A flush notes whether levels have changed, and sees to the frame. -/
theorem exists_flush_eq (runner : Runner κ) (now : Nat) : ∃ sender unsent,
    runner.flush now = { runner.collect with sender, unsentFrame := unsent } := by
  unfold flush
  dsimp only
  split
  next => exact ⟨_, _, rfl⟩
  next =>
    split
    next => exact ⟨_, _, rfl⟩
    next => split <;> exact ⟨_, _, rfl⟩

theorem startAct_cases {key : String} {result : Except RunnerError PlayerId}
    (answer : runner.startAct clock key = some (result, later)) :
    ∃ synced, runner.session.advanceTo clock.now = some synced ∧
      (runner.find? key = none ∧ result = .error (.actNotFound key) ∧
          later = { runner with session := synced } ∨
        ∃ act begun, runner.find? key = some act ∧ synced.perform (synced.cue act) = some begun ∧
          ((∃ error, result = .error (.session error) ∧ later = { runner with session := begun }) ∨
            result = .ok (synced.cued act) ∧
              later = flush { runner with session := begun } (clock.after 1).now)) := by
  simp only [startAct, Option.bind_eq_bind, Option.bind_eq_some_iff] at answer
  obtain ⟨caught, sync, answer⟩ := answer
  obtain ⟨synced, advanced, rfl⟩ := syncClock_eq_some sync
  refine ⟨synced, advanced, ?_⟩
  split at answer
  next absent =>
    obtain ⟨rfl, rfl⟩ := Prod.mk.inj (Option.some.inj answer)
    exact .inl ⟨absent, rfl, rfl⟩
  next act found =>
    refine .inr ⟨act, ?_⟩
    dsimp only at answer
    unfold Session.cue Session.cued
    split at answer
    next player plays =>
      simp only [Option.bind_eq_some_iff, Option.map_eq_some_iff] at answer
      obtain ⟨-, ⟨⟨reply, begun⟩, started, rfl⟩, rest⟩ := answer
      have answered : synced.perform (.start player) = some begun := by
        rw [Session.perform, started, Option.map_some]
      rw [plays]
      refine ⟨begun, found, answered, ?_⟩
      cases reply with
      | error error =>
        obtain ⟨rfl, rfl⟩ := Prod.mk.inj (Option.some.inj rest)
        exact .inl ⟨error, rfl, rfl⟩
      | ok =>
        obtain ⟨rfl, rfl⟩ := Prod.mk.inj (Option.some.inj rest)
        exact .inr ⟨rfl, rfl⟩
    next absent =>
      rw [Option.bind_eq_some_iff] at answer
      obtain ⟨⟨reply, begun⟩, played, rest⟩ := answer
      have answered : synced.perform (.play act) = some begun := by
        rw [Session.perform, played, Option.map_some]
      rw [absent]
      refine ⟨begun, found, answered, ?_⟩
      cases reply with
      | error error =>
        obtain ⟨rfl, rfl⟩ := Prod.mk.inj (Option.some.inj rest)
        exact .inl ⟨error, rfl, rfl⟩
      | ok player =>
        have new : player = (synced.load act).1 := by
          simp only [Session.play, Option.map_eq_some_iff, Prod.mk.injEq] at played
          obtain ⟨⟨reply, begun⟩, -, mapped, rfl⟩ := played
          cases reply with
          | error => simp [Except.map] at mapped
          | ok => exact (Except.ok.inj mapped).symm
        obtain ⟨rfl, rfl⟩ := Prod.mk.inj (Option.some.inj rest)
        exact .inr ⟨congrArg Except.ok new, rfl⟩

omit [ArtNet.Link κ] in
theorem stopAct_cases (runner : Runner κ) (key : String) :
    runner.find? key = none ∧ runner.stopAct key = (.error (.actNotFound key), runner) ∨
      ∃ act, runner.find? key = some act ∧
        (runner.session.playerFor? act.id = none ∧ runner.stopAct key = (.ok (), runner) ∨
          ∃ id, runner.session.playerFor? act.id = some id ∧
            runner.stopAct key = ((runner.session.stop id).1.mapError .session,
              { runner with session := (runner.session.stop id).2 })) := by
  unfold stopAct
  cases found : runner.find? key with
  | none => exact .inl ⟨rfl, rfl⟩
  | some act =>
    refine .inr ⟨act, rfl, ?_⟩
    cases plays : runner.session.playerFor? act.id with
    | none => exact .inl ⟨rfl, by simp only [plays]⟩
    | some id => exact .inr ⟨id, rfl, by simp only [plays]⟩

/-! ### Operations as moves -/

theorem moves_syncClock (answer : runner.syncClock now = some later) : runner.Moves later := by
  obtain ⟨synced, advanced, rfl⟩ := syncClock_eq_some answer
  exact .ask (.catchUp now) advanced

theorem moves_startAct {key : String} {result : Except RunnerError PlayerId}
    (answer : runner.startAct clock key = some (result, later)) : ReflTransGen Moves runner later := by
  obtain ⟨synced, advanced, rest⟩ := startAct_cases answer
  have caught : runner.Moves { runner with session := synced } := .ask (.catchUp _) advanced
  rcases rest with ⟨-, -, rfl⟩ | ⟨act, begun, found, cued, rest⟩
  · exact .single caught
  · have called : Moves { runner with session := synced } { runner with session := begun } :=
      .ask (.cue (mem_of_find? found)) cued
    rcases rest with ⟨-, -, rfl⟩ | ⟨-, rfl⟩
    · exact (ReflTransGen.single caught).tail called
    · exact ((ReflTransGen.single caught).tail called).tail (.flush _)

theorem moves_stopAct (runner : Runner κ) (key : String) :
    ReflTransGen Moves runner (runner.stopAct key).2 := by
  rcases runner.stopAct_cases key with ⟨-, same⟩ | ⟨act, -, ⟨-, same⟩ | ⟨id, -, same⟩⟩
  · rw [same]
  · rw [same]
  · rw [same]
    exact .single (.ask (.stop id) rfl)

theorem moves_startAll {ids started : List ActId}
    (answer : runner.startAll clock ids = some (started, later)) : ReflTransGen Moves runner later := by
  induction ids generalizing runner clock started with
  | nil => exact (Prod.mk.inj (Option.some.inj answer)).2 ▸ .refl
  | cons id rest ih =>
    simp only [startAll, Option.bind_eq_bind, Option.bind_eq_some_iff] at answer
    obtain ⟨⟨result, reached⟩, first, ⟨others, last⟩, later', ended⟩ := answer
    have same : last = later := by
      cases result with
      | error => exact (Prod.mk.inj (Option.some.inj ended)).2
      | ok => exact (Prod.mk.inj (Option.some.inj ended)).2
    exact (moves_startAct first).trans (ih (same ▸ later'))

theorem moves_handleMidi {message : MidiMessage} {started : List ActId}
    (answer : runner.handleMidi clock message = some (started, later)) :
    ReflTransGen Moves runner later := by
  unfold handleMidi at answer
  cases message with
  | controlChange channel controller value =>
    exact .head (.ask (.changeSignals _) rfl) (moves_startAll answer)
  | noteOn | noteOff => exact moves_startAll answer

theorem moves_handleOsc {message : OscMessage} {started : List ActId}
    (answer : runner.handleOsc clock message = some (started, later)) :
    ReflTransGen Moves runner later := by
  unfold handleOsc at answer
  split at answer
  next value => exact .head (.ask (.changeSignals _) rfl) (moves_startAll answer)
  next => exact moves_startAll answer

theorem moves_apply {command : RunnerCommand} (answer : runner.apply clock command = some later) :
    ReflTransGen Moves runner later := by
  cases command with
  | start key =>
    obtain ⟨⟨result, reached⟩, started, rfl⟩ := Option.map_eq_some_iff.1 answer
    exact moves_startAct started
  | stop key => exact Option.some.inj answer ▸ runner.moves_stopAct key
  | stopAll => exact Option.some.inj answer ▸ .single (.ask .stopAll rfl)
  | midi message =>
    obtain ⟨⟨started, reached⟩, handled, rfl⟩ := Option.map_eq_some_iff.1 answer
    exact moves_handleMidi handled
  | osc message =>
    obtain ⟨⟨started, reached⟩, handled, rfl⟩ := Option.map_eq_some_iff.1 answer
    exact moves_handleOsc handled
  | shutdown => exact Option.some.inj answer ▸ .refl

theorem moves_tick (answer : runner.tick clock = some later) : ReflTransGen Moves runner later := by
  obtain ⟨caught, sync, rfl⟩ := Option.map_eq_some_iff.1 answer
  exact (ReflTransGen.single (moves_syncClock sync)).tail (.flush _)

/-! ### Runs -/

/-- A runner as it has become by commands, by ticks, and by what else its host asks of the session. -/
inductive Run (host : Request Universe → Prop) (runner : Runner κ) : Runner κ → Prop where
  | here : Run host runner runner
  | apply {reached next : Runner κ} (before : Run host runner reached) (clock : Clock)
      (command : RunnerCommand) (answer : reached.apply clock command = some next) :
      Run host runner next
  | tick {reached next : Runner κ} (before : Run host runner reached) (clock : Clock)
      (answer : reached.tick clock = some next) : Run host runner next
  | ask {reached : Runner κ} {request : Request Universe} {session : Session Universe}
      (before : Run host runner reached) (own : host request)
      (answer : reached.session.perform request = some session) :
      Run host runner { reached with session }

/-- What the moves of runners keep, and the requests of hosts, is kept by runs. -/
theorem Run.rule {host : Request Universe → Prop} {P : Runner κ → Prop}
    (moves : ∀ {middle last : Runner κ}, P middle → middle.Moves last → P last)
    (asked : ∀ {middle : Runner κ} {request session}, P middle → host request →
      middle.session.perform request = some session → P { middle with session })
    (run : Run host runner later) (start : P runner) : P later := by
  have closed {middle last : Runner κ} (holds : P middle) (moved : ReflTransGen Moves middle last) :
      P last := by
    induction moved with
    | refl => exact holds
    | tail _ next ih => exact moves ih next
  induction run with
  | here => exact start
  | apply _ clock command answer ih => exact closed ih (moves_apply answer)
  | tick _ clock answer ih => exact closed ih (moves_tick answer)
  | ask _ own answer ih => exact asked ih own answer

end Runner

end LightingDesk
