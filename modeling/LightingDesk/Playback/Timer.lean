import LightingDesk.Identifier
import LightingDesk.Span
/-!
Timers of the playback clock. A timer fires at its deadline, timers of one deadline in the order in
which they were armed. A yield is a timer without delay that never fires in the window in which it
was armed.
-/

namespace LightingDesk

/-- Names the playback that armed a timer: a player, and how often it had started or ended. -/
structure Token where
  player : PlayerId
  generation : Nat
deriving DecidableEq, Repr

structure Timer where
  deadline : Nat
  handle : Nat
  token : Token
  yielded : Bool
deriving DecidableEq, Repr

/-- A stretch of time in which timers are delivered; `barrier` is the handle of the first timer
armed after the window was opened. -/
structure Window where
  limit : Nat
  barrier : Nat
deriving DecidableEq, Repr

/-- The clock and its timers, in the order of deadline and handle. -/
structure TimerQueue where
  now : Nat
  nextHandle : Nat
  pending : List Timer
deriving DecidableEq, Repr

def Timer.mayFire (timer : Timer) (window : Window) : Bool :=
  !timer.yielded || timer.handle < window.barrier

namespace TimerQueue

def empty : TimerQueue := ⟨0, 0, []⟩

def nextDeadline? (queue : TimerQueue) : Option Nat := queue.pending.head?.map Timer.deadline

/-- Puts a timer behind those that are due no later. -/
def place (timer : Timer) : List Timer → List Timer
  | [] => [timer]
  | first :: rest =>
      if first.deadline ≤ timer.deadline then first :: place timer rest else timer :: first :: rest

/-- Arms a timer, unless its deadline lies past the last instant. -/
def arm? (queue : TimerQueue) (delay : Nat) (token : Token) (yielded : Bool) :
    Option (Nat × TimerQueue) :=
  (Span.after? queue.now delay).map fun deadline =>
    (queue.nextHandle,
      { queue with
        nextHandle := queue.nextHandle + 1
        pending := place ⟨deadline, queue.nextHandle, token, yielded⟩ queue.pending })

def isArmed (queue : TimerQueue) (handle : Nat) : Bool :=
  queue.pending.any fun timer => timer.handle == handle

def cancel (queue : TimerQueue) (handle : Nat) : TimerQueue :=
  { queue with pending := queue.pending.eraseP fun timer => timer.handle == handle }

/-- A window up to an instant; one that lies in the past is empty. -/
def windowTo (queue : TimerQueue) (target : Nat) : Window :=
  ⟨max target queue.now, queue.nextHandle⟩

def windowBy? (queue : TimerQueue) (delay : Nat) : Option Window :=
  (Span.after? queue.now delay).map queue.windowTo

/-- The first timer that may fire in a window, and the others. -/
def takeDue (window : Window) : List Timer → Option (Timer × List Timer)
  | [] => none
  | first :: rest =>
      if window.limit < first.deadline then none
      else if first.mayFire window then some (first, rest)
      else (takeDue window rest).map fun (timer, others) => (timer, first :: others)

/-- Takes the next timer of a window; the clock moves on to its deadline. -/
def pop? (queue : TimerQueue) (window : Window) : Option (Token × TimerQueue) :=
  (takeDue window queue.pending).map fun (timer, others) =>
    (timer.token, { queue with now := max queue.now timer.deadline, pending := others })

/-- Closes a window: the clock moves on to its end. -/
def close (queue : TimerQueue) (window : Window) : TimerQueue :=
  { queue with now := max queue.now window.limit }

theorem length_of_takeDue {window : Window} {timer : Timer} :
    ∀ {timers others : List Timer}, takeDue window timers = some (timer, others) →
      timers.length = others.length + 1
  | first :: rest, others, found => by
      unfold takeDue at found
      split at found
      · simp at found
      · split at found
        · simp only [Option.some.injEq, Prod.mk.injEq] at found
          simp [found.2]
        · simp only [Option.map_eq_some_iff, Prod.mk.injEq] at found
          obtain ⟨⟨inner, left⟩, taken, rfl, rfl⟩ := found
          simp [length_of_takeDue taken]

end TimerQueue

/-- What players need of a clock. -/
class Scheduler (σ : Type) where
  now : σ → Nat
  /-- Arms a timer and gives its handle; none if the deadline lies past the last instant. -/
  schedule : σ → Nat → Token → Option (Nat × σ)
  /-- Arms a timer that is delivered only after the present run of deliveries. A clock without such
  a notion arms one without delay. -/
  scheduleYield : σ → Token → Option (Nat × σ) := fun clock token => schedule clock 0 token
  cancel : σ → Nat → σ

instance : Scheduler TimerQueue where
  now := TimerQueue.now
  schedule queue delay token := queue.arm? delay token false
  scheduleYield queue token := queue.arm? 0 token true
  cancel := TimerQueue.cancel

/-- A timer queue without yields. -/
structure PlainQueue where
  queue : TimerQueue

instance : Scheduler PlainQueue where
  now clock := clock.queue.now
  schedule clock delay token :=
    (clock.queue.arm? delay token false).map fun (handle, queue) => (handle, ⟨queue⟩)
  cancel clock handle := ⟨clock.queue.cancel handle⟩

end LightingDesk
