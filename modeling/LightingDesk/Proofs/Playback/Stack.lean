import LightingDesk.Dmx.Universe
import LightingDesk.Proofs.Playback.Life

/-!
The frame stack of a player, at every moment of every life: `Life.frames_fit`. An act may be cyclic,
nest trackers in themselves, name nodes that do not exist or use an id twice.
-/

namespace LightingDesk

/-- The step is none that is answered only as a precaution: no node to enter has vanished, something
is there to be completed, and a tracker is what its parent frame and its own step take it for. -/
def Cursor.Regular (act : Act) (cursor : Cursor) : Prop :=
  match cursor.step, cursor.frames with
  | .enter id, _ => (act.node? id).isSome = true
  | .complete _, [] => False
  | .complete _, [_] => True
  | .complete _, _ :: parent :: _ => (act.tracker? parent).isSome = true
  | .trackerStep id, _ => (act.tracker? id).isSome = true

theorem Cursor.Fits.regular {act : Act} {cursor : Cursor} (fits : cursor.Fits act) :
    cursor.Regular act := by
  obtain ⟨frames, memory, generator, step⟩ := cursor
  cases step with
  | enter id => exact fits.allowed.1
  | trackerStep id =>
    obtain ⟨payload, tracker⟩ := fits.allowed.2
    simp only [Regular, tracker, Option.isSome_some]
  | complete route =>
    match frames with
    | [] => exact fits.allowed rfl
    | [_] => trivial
    | done :: parent :: below =>
      obtain ⟨payload, tracker, -⟩ := fits.plays
      simp only [Regular, tracker, Option.isSome_some]

variable {σ ω : Type} [Scheduler σ] [Output ω]

/-- A call brings the moment about, whether or not it comes to an answer in the end. -/
def Player.Meets (player : Player) (moment : Moment σ ω) : Prop :=
  ∃ stage, moment ∈ player.startMoments stage ∨ ∃ token, moment ∈ player.timerMoments stage token

/-- Every moment belongs to a playback that is under way. -/
theorem Chronicle.underway_of_meets {id : PlayerId} {act : Act} {player : Player}
    {log : List (Moment σ ω)} {moment : Moment σ ω} (chronicle : Chronicle id act player log)
    (meets : player.Meets moment) :
    ∃ token, ∃ past : List (Moment σ ω), Underway act token past moment.player moment.step := by
  obtain ⟨stage, member | ⟨token, member⟩⟩ := meets
  · unfold Player.startMoments at member
    cases found : (player.stop stage).1.act.startId? with
    | none => simp [found] at member
    | some node =>
      simp only [found] at member
      have underway := chronicle.restarts stage (player.stop_act stage ▸ found)
      exact ⟨_, underway.moments moment member⟩
  · unfold Player.timerMoments at member
    split at member
    next => simp at member
    next current =>
      simp only [Bool.or_eq_true, bne_iff_ne, Bool.not_eq_true', not_or, not_not,
        Bool.not_eq_false] at current
      split at member
      next => simp at member
      next wait waiting =>
        exact ⟨_, (chronicle.resumes current.2 waiting).moments moment member⟩

/-- Frames are distinct nodes of the act, each a child of the tracker below it, and the step that is
due fits them: at every step that is taken, and while a step waits for its timer. So the stack is never
deeper than the act has ids, and no step has to be answered as a precaution. -/
theorem Life.frames_fit {id : PlayerId} {act : Act} {player : Player} {log : List (Moment σ ω)}
    (life : Life id act player log) :
    (player.playing = true → ∃ wait, player.waiting = some wait ∧
      (player.cursor wait.resume).Fits act ∧ (player.cursor wait.resume).Regular act) ∧
    player.depth ≤ act.distinctIds.length ∧ player.maxDepth ≤ act.distinctIds.length ∧
    ∀ moment : Moment σ ω, player.Meets moment →
      moment.player.act = act ∧ moment.cursor.Fits act ∧ moment.cursor.Regular act ∧
      moment.player.depth ≤ act.distinctIds.length ∧
      moment.player.maxDepth ≤ act.distinctIds.length := by
  have chronicle := life.chronicle
  refine ⟨?_, ?_, chronicle.shallow, ?_⟩
  · intro playing
    obtain ⟨wait, waiting, playback⟩ := chronicle.waits playing
    exact ⟨wait, waiting, playback.fits, playback.fits.regular⟩
  · cases playing : player.playing with
    | false =>
      rw [Player.depth, (chronicle.idles playing).2.1]
      exact Nat.zero_le _
    | true =>
      obtain ⟨wait, -, playback⟩ := chronicle.waits playing
      exact playback.fits.length_le
  · intro moment meets
    obtain ⟨token, past, underway⟩ := chronicle.underway_of_meets meets
    have fits := underway.playback.fits
    exact ⟨underway.plays, fits, fits.regular, fits.length_le, underway.shallow⟩

/-- A tracker that has itself among its children, and a child that waits. -/
def Act.selfNested : Act :=
  { Act.empty ⟨"act"⟩ "self-nested" .epoch with
    nodes := [⟨⟨"outer"⟩, "outer", .tracker (.ofChildren [⟨"inner"⟩, ⟨"outer"⟩]), .origin⟩,
      ⟨⟨"inner"⟩, "inner", .wait ⟨5⟩, .origin⟩] }

theorem frames_fit_selfNested :
    ∃ player : Player, ∃ log : List (Moment TimerQueue Universe),
      Life ⟨1⟩ .selfNested player log ∧ player.playing = true ∧
      player.frames = [⟨"inner"⟩, ⟨"outer"⟩] ∧
      player.maxDepth ≤ Act.selfNested.distinctIds.length := by
  let stage : Stage TimerQueue Universe := .ofParts .empty (.empty 1) .empty .standard
  have started : ((Player.load ⟨1⟩ .selfNested ⟨3, none, 8⟩ (.splitmix 0)).start stage).map
      (fun answer => (answer.2.1.playing, answer.2.1.frames)) =
        some (true, [⟨"inner"⟩, ⟨"outer"⟩]) := by decide
  obtain ⟨⟨result, player, stage'⟩, answer, shown⟩ := Option.map_eq_some_iff.1 started
  rw [Prod.mk.injEq] at shown
  have life := Life.start (.load ⟨3, none, 8⟩ (.splitmix 0)) stage answer
  exact ⟨player, _, life, shown.1, shown.2, life.frames_fit.2.2.1⟩

end LightingDesk
