/-!
A clock, as far as it can be told from outside: what it shows each time that it is read.
-/

namespace LightingDesk

/-- The instants that a clock shows, one reading after the other. -/
structure Clock where
  reading : Nat → Nat

namespace Clock

/-- What the clock shows next. -/
def now (clock : Clock) : Nat := clock.reading 0

/-- The clock when it has been read so many times. -/
def after (clock : Clock) (readings : Nat) : Clock := ⟨fun reading => clock.reading (readings + reading)⟩

/-- A clock that stands still. -/
def still (instant : Nat) : Clock := ⟨fun _ => instant⟩

/-- So many readings show no instant beyond a last one. -/
def Within (clock : Clock) (readings last : Nat) : Prop :=
  ∀ reading < readings, clock.reading reading ≤ last

end Clock

end LightingDesk
