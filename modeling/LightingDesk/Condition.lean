import LightingDesk.Signal
/-!
The test of a condition node: one signal compared with an operand. Its outcome is written as a
branch label, and connections are guarded by such labels.
-/

namespace LightingDesk

inductive Comparison where
  | equals
  | greater
  | less
  | between
deriving DecidableEq, Repr

structure Predicate where
  source : Signal
  operator : Comparison
  value : Float
  upper : Option Float
deriving BEq

namespace Predicate

def compare (source : Signal) (operator : Comparison) (value : Float) : Predicate :=
  { source, operator, value, upper := none }

def between (source : Signal) (low high : Float) : Predicate :=
  { source, operator := .between, value := low, upper := some high }

/-- The distance from one to the next double above it. -/
def epsilon : Float := Float.ofBits 0x3CB0000000000000

/-- The two ends of the range of `between`, smaller first; a missing upper bound leaves a single
point. -/
def range (predicate : Predicate) : Float × Float :=
  let upper := predicate.upper.getD predicate.value
  if upper < predicate.value then (upper, predicate.value) else (predicate.value, upper)

/-- Whether a sample passes. Two values are equal when they differ by less than `epsilon`, and
nothing passes that is not a number. -/
def holds (predicate : Predicate) (sample : Float) : Bool :=
  match predicate.operator with
  | .equals => (sample - predicate.value).abs < epsilon
  | .greater => predicate.value < sample
  | .less => sample < predicate.value
  | .between => predicate.range.1 ≤ sample && sample ≤ predicate.range.2

end Predicate

/-- The label of the branch that an outcome takes. -/
def branchLabel (outcome : Bool) : String := if outcome then "true" else "false"

end LightingDesk
