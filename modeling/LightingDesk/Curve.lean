import LightingDesk.Span
/-!
How a transition runs from its start to its end, in single precision.
-/

namespace LightingDesk

inductive Curve where
  | linear
  | easeIn
  | easeOut
  | easeInOut
deriving DecidableEq, Repr

namespace Curve

/-- Values below zero and above one are brought to the nearer end; what is not a number stays. -/
def clampUnit (t : Float32) : Float32 := if t < 0 then 0 else if 1 < t then 1 else t

def ease (curve : Curve) (t : Float32) : Float32 :=
  let t := clampUnit t
  match curve with
  | .linear => t
  | .easeIn => t * t
  | .easeOut => t * (2 - t)
  | .easeInOut => t * t * (3 - 2 * t)

/-- The part of `delay` that has passed after `elapsed`, at most one. -/
def portion (elapsed delay : Nat) : Float32 :=
  let ratio := Span.seconds32 elapsed / Span.seconds32 delay
  if ratio < 1 then ratio else 1

end Curve

end LightingDesk
