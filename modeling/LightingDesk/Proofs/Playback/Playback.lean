import LightingDesk.Proofs.Playback.Moment

/-!
One playback, from its start to the step that is due or to its end. A token names a playback, and
`Playback` says that a list of moments is what a playback has gone through so far: each moment finds
the cursor that the one before it left, whether it followed at once or after a timer.
-/

namespace LightingDesk

variable {σ ω : Type} [Scheduler σ] [Output ω]

/-- The moments of the playback that `token` names, and where it stands after them: before what is
due, or at its end. -/
inductive Playback (act : Act) (token : Token) : List (Moment σ ω) → Option Cursor → Prop where
  | start {id} (found : act.startId? = some id) (generator : Generator) :
      Playback act token [] (some ⟨[], .empty, generator, .enter id⟩)
  | take {past moment} (before : Playback act token past (some moment.cursor))
      (plays : moment.player.act = act) (named : moment.player.token = token)
      (playing : moment.player.playing = true) (free : moment.player.waiting = none)
      (answered : moment.turn.isSome = true) :
      Playback act token (past ++ [moment]) moment.due?

namespace Playback

variable {act : Act} {token : Token} {past rest : List (Moment σ ω)} {moment : Moment σ ω}
  {cursor : Cursor} {due : Option Cursor}

theorem fits (playback : Playback act token past (some cursor)) : cursor.Fits act := by
  generalize standing : some cursor = due at playback
  induction playback generalizing cursor with
  | start found generator =>
    cases standing
    exact .start found _ _
  | take before plays named playing free answered ih =>
    have live : Moment.Live _ := ⟨playing, free, answered, plays ▸ ih rfl⟩
    exact (plays ▸ live.fits).next (plays ▸ live.next_of_due? standing.symm)

theorem append_singleton (playback : Playback act token (past ++ [moment]) due) :
    Playback act token past (some moment.cursor) ∧ due = moment.due? ∧
      moment.player.act = act ∧ moment.player.token = token ∧ moment.Live := by
  generalize all : past ++ [moment] = moments at playback
  cases playback with
  | start => simp at all
  | take before plays named playing free answered =>
    obtain ⟨rfl, same⟩ := List.append_inj' all rfl
    obtain rfl : moment = _ := by simpa using same
    exact ⟨before, rfl, plays, named, playing, free, answered, plays ▸ before.fits⟩

/-- A playback was one before each of its moments. -/
theorem before (playback : Playback act token (past ++ moment :: rest) due) :
    Playback act token past (some moment.cursor) := by
  induction rest using List.reverseRecOn generalizing due with
  | nil => exact playback.append_singleton.1
  | append_singleton rest last ih =>
    have same : past ++ moment :: (rest ++ [last]) = (past ++ moment :: rest) ++ [last] := by simp
    rw [same] at playback
    exact ih playback.append_singleton.1

theorem after (playback : Playback act token (past ++ moment :: rest) due) :
    Playback act token (past ++ [moment]) moment.due? := by
  cases rest with
  | nil => exact playback.append_singleton.2.1 ▸ playback
  | cons next rest =>
    rw [← List.singleton_append, ← List.append_assoc] at playback
    have standing := playback.before
    exact standing.append_singleton.2.1 ▸ standing

/-- The first moments of a playback are one that has come less far. -/
theorem initial (playback : Playback act token (past ++ rest) due) :
    ∃ standing, Playback act token past standing := by
  cases rest with
  | nil => exact ⟨due, by simpa using playback⟩
  | cons moment rest => exact ⟨_, playback.before⟩

theorem live (playback : Playback act token past due) {moment : Moment σ ω} (member : moment ∈ past) :
    moment.Live ∧ moment.player.act = act ∧ moment.player.token = token := by
  obtain ⟨earlier, later, rfl⟩ := List.append_of_mem member
  obtain ⟨-, -, plays, named, live⟩ := playback.after.append_singleton
  exact ⟨live, plays, named⟩

/-- A moment that another one follows leads to it. -/
theorem leads {next : Moment σ ω} (playback : Playback act token (past ++ moment :: next :: rest) due) :
    moment.due? = some next.cursor := by
  rw [← List.singleton_append, ← List.append_assoc] at playback
  exact playback.before.append_singleton.2.1.symm

end Playback

end LightingDesk
