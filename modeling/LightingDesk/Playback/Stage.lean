import LightingDesk.FixtureSet
import LightingDesk.Playback.Event
import LightingDesk.Playback.Output
import LightingDesk.Playback.Timer
import LightingDesk.Scene
import LightingDesk.Signal
/-!
What players share: scenes, signals, a clock, an output and the event bus. The stage also keeps a
trace of everything that players did to it, each deed with its author and the time on the clock.
-/

namespace LightingDesk

inductive Deed where
  | event (event : Event)
  | write (channel : UInt16) (value : UInt8)
deriving DecidableEq, Repr

structure TraceEntry where
  time : Nat
  player : PlayerId
  deed : Deed
deriving DecidableEq, Repr

namespace TraceEntry

def event? (entry : TraceEntry) : Option Event :=
  match entry.deed with
  | .event event => some event
  | .write .. => none

def write? (entry : TraceEntry) : Option (UInt16 × UInt8) :=
  match entry.deed with
  | .event _ => none
  | .write channel value => some (channel, value)

end TraceEntry

structure Stage (σ ω : Type) where
  scenes : SceneLibrary
  signals : SignalBoard
  clock : σ
  output : ω
  bus : EventBus
  trace : Array TraceEntry

namespace Stage

variable {σ ω : Type}

def ofParts (clock : σ) (output : ω) (scenes : SceneLibrary) (bus : EventBus) : Stage σ ω :=
  { scenes, signals := .empty, clock, output, bus, trace := #[] }

def withClock (stage : Stage σ ω) (clock : σ) : Stage σ ω := { stage with clock }

variable [Scheduler σ] [Output ω]

def now (stage : Stage σ ω) : Nat := Scheduler.now stage.clock

def emit (stage : Stage σ ω) (event : Event) : Stage σ ω :=
  { stage with
    bus := stage.bus.emit event
    trace := stage.trace.push ⟨Scheduler.now stage.clock, event.player, .event event⟩ }

def write (stage : Stage σ ω) (player : PlayerId) (channel : UInt16) (value : UInt8) :
    Stage σ ω :=
  { stage with
    output := Output.write stage.output channel value
    trace := stage.trace.push ⟨Scheduler.now stage.clock, player, .write channel value⟩ }

/-- A channel is skipped if it belongs to a muted fixture. -/
def isMuted (stage : Stage σ ω) (muted : FixtureSet) (channel : UInt16) : Bool :=
  !muted.isEmpty && (Output.fixtureAt stage.output channel).any muted.contains

/-- Writes the levels of a scene in order, without those of muted fixtures. -/
def apply (player : PlayerId) (muted : FixtureSet) :
    List (UInt16 × UInt8) → Stage σ ω → Stage σ ω
  | [], stage => stage
  | (channel, value) :: rest, stage =>
      apply player muted rest
        (if stage.isMuted muted channel then stage else stage.write player channel value)

/-- The reading of a signal at a time after the start of an act. A channel without a reading of its
own is read from the output. -/
def sample (stage : Stage σ ω) (elapsed : Nat) : Signal → Option Float
  | .time => some (Span.seconds64 elapsed * 1000)
  | .dmx channel =>
      match stage.signals.reading? (.dmx channel) with
      | some value => some value
      | none => (Output.level? stage.output channel).map fun level => level.toNat.toFloat
  | signal => stage.signals.reading? signal

end Stage

end LightingDesk
