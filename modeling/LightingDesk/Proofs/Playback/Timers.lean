import LightingDesk.Playback.Timer
import Mathlib.Data.List.Nodup
import Mathlib.Data.List.Perm.Basic

/-!
The timers of one player among those of a clock. `TimerQueue.Serves` follows them through arming,
cancelling and delivery, and says that the timers of all others stay armed.
-/

namespace LightingDesk

namespace TimerQueue

def timersOf (queue : TimerQueue) (id : PlayerId) : List Timer :=
  queue.pending.filter fun timer => timer.token.player == id

/-- Every handle has been issued once. -/
structure Sound (queue : TimerQueue) : Prop where
  distinct : (queue.pending.map Timer.handle).Nodup
  issued : ∀ timer ∈ queue.pending, timer.handle < queue.nextHandle

theorem place_perm (timer : Timer) (timers : List Timer) :
    (place timer timers).Perm (timer :: timers) := by
  induction timers with
  | nil => exact .refl _
  | cons first rest ih =>
    rw [place]
    split
    · exact (ih.cons first).trans (.swap ..)
    · exact .refl _

theorem takeDue_perm {window : Window} {timer : Timer} {timers others : List Timer}
    (taken : takeDue window timers = some (timer, others)) : timers.Perm (timer :: others) := by
  induction timers generalizing others with
  | nil => simp [takeDue] at taken
  | cons first rest ih =>
    rw [takeDue] at taken
    split at taken
    next => simp at taken
    next =>
      split at taken
      next =>
        rw [Option.some.injEq, Prod.mk.injEq] at taken
        rw [taken.1, taken.2]
      next =>
        simp only [Option.map_eq_some_iff, Prod.mk.injEq] at taken
        obtain ⟨⟨due, left⟩, found, rfl, rfl⟩ := taken
        exact ((ih found).cons first).trans (.swap ..)

/-- `after` has all the timers of `queue` but one. -/
structure Gives (queue : TimerQueue) (timer : Timer) (after : TimerQueue) : Prop where
  perm : queue.pending.Perm (timer :: after.pending)
  nextHandle : after.nextHandle = queue.nextHandle

theorem Sound.gives_cancel {queue : TimerQueue} {timer : Timer} (sound : queue.Sound)
    (armed : timer ∈ queue.pending) : queue.Gives timer (queue.cancel timer.handle) := by
  refine ⟨?_, rfl⟩
  obtain ⟨other, before, behind, -, handle, all, left⟩ :=
    List.exists_of_eraseP (p := fun other => other.handle == timer.handle) armed (by simp)
  have member : other ∈ queue.pending := by
    rw [all]
    exact List.mem_append_right _ List.mem_cons_self
  have same : other = timer :=
    List.inj_on_of_nodup_map sound.distinct member armed (by simpa using handle)
  rw [cancel, left, all, same]
  exact List.perm_middle

theorem gives_of_pop? {queue after : TimerQueue} {window : Window} {token : Token}
    (popped : queue.pop? window = some (token, after)) :
    ∃ timer, timer.token = token ∧ queue.Gives timer after := by
  simp only [pop?, Option.map_eq_some_iff, Prod.mk.injEq] at popped
  obtain ⟨⟨timer, others⟩, taken, token, rfl⟩ := popped
  exact ⟨timer, token, takeDue_perm taken, rfl⟩

namespace Gives

variable {queue after : TimerQueue} {timer : Timer}

theorem sound (gives : queue.Gives timer after) (sound : queue.Sound) : after.Sound where
  distinct := by
    have distinct := (gives.perm.map Timer.handle).nodup_iff.1 sound.distinct
    rw [List.map_cons] at distinct
    exact (List.nodup_cons.1 distinct).2
  issued := by
    intro other member
    rw [gives.nextHandle]
    exact sound.issued other (gives.perm.mem_iff.2 (List.mem_cons_of_mem _ member))

theorem timersOf_self (gives : queue.Gives timer after) :
    (queue.timersOf timer.token.player).Perm (timer :: after.timersOf timer.token.player) := by
  have perm := gives.perm.filter fun other => other.token.player == timer.token.player
  rwa [List.filter_cons_of_pos (by simp)] at perm

theorem timersOf_other {id : PlayerId} (gives : queue.Gives timer after)
    (other : id ≠ timer.token.player) : (queue.timersOf id).Perm (after.timersOf id) := by
  have perm := gives.perm.filter fun timer => timer.token.player == id
  rwa [List.filter_cons_of_neg (by simpa using Ne.symm other)] at perm

end Gives

/-- From `before` to `after`, a player has come to have these timers, and all others have those that
they had. -/
structure Serves (id : PlayerId) (own : List Timer) (before after : TimerQueue) : Prop where
  sound : after.Sound
  own : after.timersOf id = own
  others : ∀ other ≠ id, (after.timersOf other).Perm (before.timersOf other)

namespace Serves

variable {id : PlayerId} {own : List Timer} {before queue after : TimerQueue} {timer : Timer}

theorem refl (sound : queue.Sound) (held : queue.timersOf id = own) :
    Serves id own queue queue :=
  ⟨sound, held, fun _ _ => .refl _⟩

theorem arm {delay handle : Nat} {token : Token} {yielded : Bool}
    (serves : Serves token.player [] before queue)
    (armed : queue.arm? delay token yielded = some (handle, after)) :
    ∃ timer, timer.handle = handle ∧ timer.token = token ∧
      Serves token.player [timer] before after := by
  simp only [arm?, Option.map_eq_some_iff, Prod.mk.injEq] at armed
  obtain ⟨deadline, -, rfl, rfl⟩ := armed
  let timer : Timer := ⟨deadline, queue.nextHandle, token, yielded⟩
  have perm := place_perm timer queue.pending
  have given : Gives ⟨queue.now, queue.nextHandle + 1, place timer queue.pending⟩ timer
      { queue with nextHandle := queue.nextHandle + 1 } := ⟨perm, rfl⟩
  refine ⟨timer, rfl, rfl, ⟨?_, ?_⟩, ?_, ?_⟩
  · rw [(perm.map Timer.handle).nodup_iff, List.map_cons, List.nodup_cons]
    refine ⟨?_, serves.sound.distinct⟩
    intro member
    obtain ⟨other, listed, handle⟩ := List.mem_map.1 member
    exact absurd handle (Nat.ne_of_lt (serves.sound.issued other listed))
  · intro other member
    rcases List.mem_cons.1 (perm.mem_iff.1 member) with rfl | listed
    · exact Nat.lt_succ_self _
    · exact Nat.lt_succ_of_lt (serves.sound.issued other listed)
  · have own := given.timersOf_self
    rw [show timersOf { queue with nextHandle := queue.nextHandle + 1 } timer.token.player = []
      from serves.own] at own
    exact List.perm_singleton.1 own
  · intro other different
    exact (given.timersOf_other different).trans (serves.others other different)

/-- A timer that goes away was one of its owner's. -/
theorem mem_of_gives (serves : Serves timer.token.player own before queue)
    (gives : queue.Gives timer after) : timer ∈ own := by
  rw [← serves.own]
  exact gives.timersOf_self.mem_iff.2 List.mem_cons_self

theorem gives (serves : Serves timer.token.player [timer] before queue)
    (gives : queue.Gives timer after) : Serves timer.token.player [] before after := by
  have own := gives.timersOf_self
  rw [serves.own] at own
  refine ⟨gives.sound serves.sound, List.perm_nil.1 (own.cons_inv).symm, ?_⟩
  intro other different
  exact (gives.timersOf_other different).symm.trans (serves.others other different)

theorem cancel (serves : Serves id [timer] before queue) :
    Serves id [] before (queue.cancel timer.handle) := by
  have member : timer ∈ queue.timersOf id := serves.own ▸ List.mem_singleton_self timer
  obtain ⟨armed, owner⟩ : timer ∈ queue.pending ∧ timer.token.player = id := by
    simpa [timersOf] using member
  subst owner
  exact serves.gives (serves.sound.gives_cancel armed)

end Serves

end TimerQueue

end LightingDesk
