/-!
Lengths of time and readings of the playback clock. Both are natural numbers that count
nanoseconds. The clock has a last instant, so adding to an instant may have no answer.
-/

namespace LightingDesk

namespace Span

def perMillisecond : Nat := 1000000

def perSecond : Nat := 1000000000

/-- The last instant of a clock: 64 bits of whole seconds and 999999999 nanoseconds. -/
def longest : Nat := UInt64.size * perSecond - 1

def ofMilliseconds (count : Nat) : Nat := count * perMillisecond

def ofParts (seconds nanoseconds : Nat) : Nat := seconds * perSecond + nanoseconds

def wholeSeconds (span : Nat) : Nat := span / perSecond

def nanosecondPart (span : Nat) : Nat := span % perSecond

/-- The instant that lies `delay` after `now`, if the clock reaches it. -/
def after? (now delay : Nat) : Option Nat :=
  if now + delay ≤ longest then some (now + delay) else none

/-- Seconds in single precision: whole seconds and the fraction are rounded before they are
added. -/
def seconds32 (span : Nat) : Float32 :=
  (wholeSeconds span).toUInt64.toFloat32 + (nanosecondPart span).toUInt64.toFloat32 / 1e9

/-- Seconds in double precision, rounded like `seconds32`. -/
def seconds64 (span : Nat) : Float :=
  (wholeSeconds span).toUInt64.toFloat + (nanosecondPart span).toUInt64.toFloat / 1e9

theorem after?_eq_some_iff {now delay later : Nat} :
    after? now delay = some later ↔ now + delay ≤ longest ∧ now + delay = later := by
  unfold after?
  split
  · next fits => simp [fits]
  · next beyond => simp [beyond]

end Span

end LightingDesk
