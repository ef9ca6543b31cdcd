import LightingDesk.Act
/-!
Messages from controllers, and which of them start an act.
-/

namespace LightingDesk

inductive MidiMessage where
  | noteOn (channel note velocity : UInt8)
  | noteOff (channel note : UInt8)
  | controlChange (channel controller value : UInt8)
deriving DecidableEq, Repr

def MidiMessage.channel : MidiMessage → UInt8
  | noteOn channel _ _ | noteOff channel _ | controlChange channel _ _ => channel

structure OscMessage where
  address : String
  value : Option Float32
deriving BEq

/-- A note that is switched on with some force. -/
def MidiTrigger.fires (trigger : MidiTrigger) : MidiMessage → Bool
  | .noteOn channel note velocity =>
      trigger.enabled && 0 < velocity && channel == trigger.channel && note == trigger.note
  | _ => false

def OscTrigger.pressThreshold : Float32 := 0.5

/-- A value above the threshold at the address of the trigger, which must not be empty. -/
def OscTrigger.fires (trigger : OscTrigger) (message : OscMessage) : Bool :=
  trigger.enabled && !trigger.address.isEmpty && trigger.address == message.address &&
    message.value.any fun value => OscTrigger.pressThreshold < value

def Triggers.midiFires (triggers : Triggers) (message : MidiMessage) : Bool :=
  triggers.midi.any fun trigger => trigger.fires message

def Triggers.oscFires (triggers : Triggers) (message : OscMessage) : Bool :=
  triggers.osc.any fun trigger => trigger.fires message

end LightingDesk
