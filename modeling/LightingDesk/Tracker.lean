import LightingDesk.Generator
import LightingDesk.Identifier
/-!
Trackers walk through a list of child nodes. One rule for each mode says where the walk goes after
the child at a position has been played.
-/

namespace LightingDesk

inductive TrackerMode where
  | bounce
  | pingPong
  | random
  | once
deriving DecidableEq, Repr

inductive Direction where
  | forward
  | backward
deriving DecidableEq, Repr

/-- A place in the list of children and the way the walk is heading. -/
structure TrackerPosition where
  index : Nat
  direction : Direction
deriving DecidableEq, Repr

/-- The position a tracker starts from, as an author writes it. -/
structure TrackerStart where
  index : UInt64
  direction : Direction
deriving DecidableEq, Repr

def TrackerStart.first : TrackerStart := ⟨0, .forward⟩

def TrackerStart.position (start : TrackerStart) : TrackerPosition :=
  ⟨start.index.toNat, start.direction⟩

/-- What a tracker node plays, and how. -/
structure TrackerPayload where
  children : List NodeId
  mode : TrackerMode
  stepDelayMs : UInt64
  initial : TrackerStart
deriving DecidableEq, Repr

namespace TrackerPayload

def ofChildren (children : List NodeId) : TrackerPayload :=
  { children, mode := .bounce, stepDelayMs := 2000, initial := .first }

def withMode (payload : TrackerPayload) (mode : TrackerMode) : TrackerPayload :=
  { payload with mode }

def withStepDelay (payload : TrackerPayload) (stepDelayMs : UInt64) : TrackerPayload :=
  { payload with stepDelayMs }

end TrackerPayload

namespace TrackerPosition

/-- The same way, with an index that names one of `count` children. -/
def clamp (position : TrackerPosition) (count : Nat) : TrackerPosition :=
  { position with index := min position.index (count - 1) }

/-- One step back and forth between the first and the last of `count` children. -/
def turn (position : TrackerPosition) (count : Nat) : TrackerPosition :=
  if count = 1 then ⟨0, position.direction⟩
  else
    match position.direction with
    | .forward =>
        if count - 1 ≤ position.index then ⟨count - 2, .backward⟩
        else ⟨position.index + 1, .forward⟩
    | .backward =>
        if position.index = 0 then ⟨1, .forward⟩ else ⟨position.index - 1, .backward⟩

end TrackerPosition

/-- Where a tracker goes after a child: to another position, or nowhere. -/
inductive TrackerMove where
  | to (position : TrackerPosition)
  | finished
deriving DecidableEq, Repr

/-- The rule of each mode. Only a random tracker draws from the generator. -/
def TrackerMode.advance (mode : TrackerMode) (count : Nat) (position : TrackerPosition)
    (generator : Generator) : TrackerMove × Generator :=
  let position := position.clamp count
  match mode with
  | .bounce | .pingPong => (.to (position.turn count), generator)
  | .random =>
      let drawn := generator.below count
      (.to ⟨drawn.1, position.direction⟩, drawn.2)
  | .once =>
      if count - 1 ≤ position.index then (.finished, generator)
      else (.to ⟨position.index + 1, position.direction⟩, generator)

end LightingDesk
