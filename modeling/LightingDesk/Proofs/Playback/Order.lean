import LightingDesk.Proofs.Playback.Timers

/-!
The order of the timers of a clock: by deadline, and by handle where deadlines are equal. Arming,
cancelling and delivery keep it, so what a window takes next is the least of the timers that are due in
it.
-/

namespace LightingDesk

/-- The order in which timers are delivered. -/
def Timer.Before (timer other : Timer) : Prop :=
  timer.deadline < other.deadline ∨ timer.deadline = other.deadline ∧ timer.handle < other.handle

theorem Timer.Before.deadline_le {timer other : Timer} (before : timer.Before other) :
    timer.deadline ≤ other.deadline := by
  rcases before with earlier | ⟨same, -⟩
  · exact Nat.le_of_lt earlier
  · exact Nat.le_of_eq same

/-- The timer is to be delivered in the window. -/
structure Timer.IsDue (timer : Timer) (window : Window) : Prop where
  within : timer.deadline ≤ window.limit
  mayFire : timer.mayFire window = true

theorem Timer.IsDue.of_plain {timer : Timer} {window : Window} (plain : timer.yielded = false)
    (within : timer.deadline ≤ window.limit) : timer.IsDue window :=
  ⟨within, by simp [Timer.mayFire, plain]⟩

/-- A yield that is due was armed before the window was opened. -/
theorem Timer.IsDue.early {timer : Timer} {window : Window} (isDue : timer.IsDue window)
    (yields : timer.yielded = true) : timer.handle < window.barrier := by
  simpa [Timer.mayFire, yields] using isDue.mayFire

namespace TimerQueue

def Ordered (queue : TimerQueue) : Prop := queue.pending.Pairwise Timer.Before

/-- A timer with the latest handle finds its place. -/
theorem place_ordered {timer : Timer} {timers : List Timer} (ordered : timers.Pairwise Timer.Before)
    (latest : ∀ other ∈ timers, other.handle < timer.handle) :
    (place timer timers).Pairwise Timer.Before := by
  induction timers with
  | nil => exact List.pairwise_singleton _ _
  | cons first rest ih =>
    obtain ⟨leads, sorted⟩ := List.pairwise_cons.1 ordered
    rw [place]
    split
    next sooner =>
      refine List.pairwise_cons.2
        ⟨?_, ih sorted fun other member => latest other (List.mem_cons_of_mem _ member)⟩
      intro other member
      rcases List.mem_cons.1 ((place_perm timer rest).mem_iff.1 member) with rfl | listed
      · have handle := latest first List.mem_cons_self
        rcases Nat.lt_or_eq_of_le sooner with earlier | same
        · exact .inl earlier
        · exact .inr ⟨same, handle⟩
      · exact leads other listed
    next later =>
      refine List.pairwise_cons.2 ⟨?_, ordered⟩
      intro other member
      refine .inl (Nat.lt_of_lt_of_le (Nat.not_le.1 later) ?_)
      rcases List.mem_cons.1 member with rfl | listed
      · exact Nat.le_refl _
      · exact (leads other listed).deadline_le

section TakeDue

variable {window : Window} {timer : Timer} {timers others : List Timer}

theorem takeDue_sublist (taken : takeDue window timers = some (timer, others)) :
    others.Sublist timers := by
  induction timers generalizing others with
  | nil => simp [takeDue] at taken
  | cons first rest ih =>
    rw [takeDue] at taken
    split at taken
    next => simp at taken
    next =>
      split at taken
      next =>
        rw [Option.some.injEq, Prod.mk.injEq] at taken
        exact taken.2 ▸ List.sublist_cons_self _ _
      next =>
        simp only [Option.map_eq_some_iff, Prod.mk.injEq] at taken
        obtain ⟨⟨due, left⟩, found, rfl, rfl⟩ := taken
        exact (ih found).cons_cons first

theorem takeDue_isDue (taken : takeDue window timers = some (timer, others)) :
    timer.IsDue window := by
  induction timers generalizing others with
  | nil => simp [takeDue] at taken
  | cons first rest ih =>
    rw [takeDue] at taken
    split at taken
    next => simp at taken
    next within =>
      split at taken
      next fires =>
        rw [Option.some.injEq, Prod.mk.injEq] at taken
        exact taken.1 ▸ ⟨Nat.not_lt.1 within, fires⟩
      next =>
        simp only [Option.map_eq_some_iff, Prod.mk.injEq] at taken
        obtain ⟨⟨due, left⟩, found, rfl, rfl⟩ := taken
        exact ih found

theorem takeDue_least (ordered : timers.Pairwise Timer.Before)
    (taken : takeDue window timers = some (timer, others)) :
    ∀ other ∈ others, other.IsDue window → timer.Before other := by
  induction timers generalizing others with
  | nil => simp [takeDue] at taken
  | cons first rest ih =>
    obtain ⟨leads, sorted⟩ := List.pairwise_cons.1 ordered
    rw [takeDue] at taken
    split at taken
    next => simp at taken
    next =>
      split at taken
      next =>
        rw [Option.some.injEq, Prod.mk.injEq] at taken
        obtain ⟨rfl, rfl⟩ := taken
        exact fun other member _ => leads other member
      next withheld =>
        simp only [Option.map_eq_some_iff, Prod.mk.injEq] at taken
        obtain ⟨⟨due, left⟩, found, rfl, rfl⟩ := taken
        intro other member isDue
        rcases List.mem_cons.1 member with rfl | listed
        · exact absurd isDue.mayFire withheld
        · exact ih sorted found other listed isDue

theorem takeDue_eq_none (ordered : timers.Pairwise Timer.Before)
    (none : takeDue window timers = none) : ∀ timer ∈ timers, ¬timer.IsDue window := by
  induction timers with
  | nil => simp
  | cons first rest ih =>
    obtain ⟨leads, sorted⟩ := List.pairwise_cons.1 ordered
    rw [takeDue] at none
    split at none
    next beyond =>
      intro timer member isDue
      refine absurd isDue.within (Nat.not_le.2 (Nat.lt_of_lt_of_le beyond ?_))
      rcases List.mem_cons.1 member with rfl | listed
      · exact Nat.le_refl _
      · exact (leads timer listed).deadline_le
    next =>
      split at none
      next => simp at none
      next withheld =>
        rw [Option.map_eq_none_iff] at none
        intro timer member isDue
        rcases List.mem_cons.1 member with rfl | listed
        · exact withheld isDue.mayFire
        · exact ih sorted none timer listed isDue

end TakeDue

/-- Takes the next timer of a window, and tells which one it is. -/
def take? (queue : TimerQueue) (window : Window) : Option (Timer × TimerQueue) :=
  (takeDue window queue.pending).map fun (timer, others) =>
    (timer, { queue with now := max queue.now timer.deadline, pending := others })

theorem pop?_eq (queue : TimerQueue) (window : Window) :
    queue.pop? window = (queue.take? window).map fun (timer, after) => (timer.token, after) := by
  rw [pop?, take?, Option.map_map]
  rfl

/-- From `queue` to `after`, a window takes a timer. -/
structure Takes (queue : TimerQueue) (window : Window) (timer : Timer) (after : TimerQueue) : Prop
    extends queue.Gives timer after where
  now : after.now = max queue.now timer.deadline
  isDue : timer.IsDue window
  least : ∀ other ∈ after.pending, other.IsDue window → timer.Before other
  ordered : after.Ordered

variable {queue after : TimerQueue} {window : Window} {timer : Timer}

theorem Ordered.takes (ordered : queue.Ordered) (taken : queue.take? window = some (timer, after)) :
    queue.Takes window timer after := by
  simp only [take?, Option.map_eq_some_iff, Prod.mk.injEq] at taken
  obtain ⟨⟨due, others⟩, found, rfl, rfl⟩ := taken
  exact ⟨⟨takeDue_perm found, rfl⟩, rfl, takeDue_isDue found, takeDue_least ordered found,
    ordered.sublist (takeDue_sublist found)⟩

theorem Ordered.exhausted (ordered : queue.Ordered) (none : queue.take? window = none) :
    ∀ timer ∈ queue.pending, ¬timer.IsDue window :=
  takeDue_eq_none ordered (Option.map_eq_none_iff.1 none)

theorem Ordered.cancel (ordered : queue.Ordered) (handle : Nat) : (queue.cancel handle).Ordered :=
  ordered.sublist List.eraseP_sublist

theorem arm?_eq_some {delay handle : Nat} {token : Token} {yielded : Bool}
    (armed : queue.arm? delay token yielded = some (handle, after)) :
    handle = queue.nextHandle ∧ after = { queue with
      nextHandle := queue.nextHandle + 1
      pending := place ⟨queue.now + delay, queue.nextHandle, token, yielded⟩ queue.pending } := by
  simp only [arm?, Option.map_eq_some_iff, Prod.mk.injEq] at armed
  obtain ⟨deadline, reached, rfl, rfl⟩ := armed
  obtain ⟨-, rfl⟩ := Span.after?_eq_some_iff.1 reached
  exact ⟨rfl, rfl⟩

theorem reaches_of_arm? {delay handle : Nat} {token : Token} {yielded : Bool}
    (armed : queue.arm? delay token yielded = some (handle, after)) :
    queue.now + delay ≤ Span.longest := by
  obtain ⟨deadline, reached, -⟩ := Option.map_eq_some_iff.1 armed
  exact (Span.after?_eq_some_iff.1 reached).1

/-- From `queue` to `after`, a timer is armed. -/
structure Arms (queue : TimerQueue) (timer : Timer) (after : TimerQueue) : Prop where
  perm : after.pending.Perm (timer :: queue.pending)
  handle : timer.handle = queue.nextHandle
  nextHandle : after.nextHandle = queue.nextHandle + 1
  now : after.now = queue.now
  ordered : queue.Ordered → (∀ other ∈ queue.pending, other.handle < queue.nextHandle) → after.Ordered

theorem arms_of_arm? {delay handle : Nat} {token : Token} {yielded : Bool}
    (armed : queue.arm? delay token yielded = some (handle, after)) :
    queue.Arms ⟨queue.now + delay, handle, token, yielded⟩ after := by
  obtain ⟨rfl, rfl⟩ := arm?_eq_some armed
  exact ⟨place_perm _ _, rfl, rfl, rfl, fun ordered latest => place_ordered ordered latest⟩

end TimerQueue

end LightingDesk
