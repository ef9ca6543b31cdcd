import LightingDesk.Identifier
/-!
Fixtures and the channels they occupy. Addresses count from one, channels of a universe from zero.
-/

namespace LightingDesk

inductive ChannelType where
  | dimmer
  | red
  | green
  | blue
  | amber
  | white
  | pan
  | tilt
  | colorWheel
  | gobo
  | shutter
  | speed
  | generic
deriving DecidableEq, Repr

def ChannelType.label : ChannelType → String
  | dimmer => "Dimmer"
  | red => "Red"
  | green => "Green"
  | blue => "Blue"
  | amber => "Amber"
  | white => "White"
  | pan => "Pan"
  | tilt => "Tilt"
  | colorWheel => "Color Wheel"
  | gobo => "Gobo"
  | shutter => "Shutter"
  | speed => "Speed"
  | generic => "Generic"

structure FixtureChannel where
  name : String
  channelType : ChannelType
  defaultValue : UInt8
deriving DecidableEq, Repr

structure FixtureProfile where
  name : String
  manufacturer : String
  channels : List FixtureChannel
deriving DecidableEq, Repr

namespace FixtureProfile

/-- A profile whose channels are named for their types. -/
def ofLayout (name : String) (layout : List ChannelType) : FixtureProfile :=
  { name, manufacturer := "Generic",
    channels := layout.map fun channelType => ⟨channelType.label, channelType, 0⟩ }

def genericDimmer : FixtureProfile := ofLayout "Generic Dimmer" [.dimmer]

def rgbPar : FixtureProfile := ofLayout "RGB Par" [.red, .green, .blue]

def rgbwPar : FixtureProfile := ofLayout "RGBW Par" [.red, .green, .blue, .white]

end FixtureProfile

structure Fixture where
  id : FixtureId
  name : String
  profile : FixtureProfile
  universeNumber : UInt16
  startAddress : UInt16
deriving DecidableEq, Repr

namespace Fixture

def largestAddress : Nat := 65535

/-- The number of channels; a profile with more than addresses can count is taken to have as many
as they can. -/
def channelCount (fixture : Fixture) : Nat := min fixture.profile.channels.length largestAddress

/-- The last address, or the one before the start if there are no channels. -/
def endAddress (fixture : Fixture) : Nat :=
  min (fixture.startAddress.toNat + fixture.channelCount) largestAddress - 1

def containsChannel (fixture : Fixture) (channel : UInt16) : Bool :=
  fixture.startAddress.toNat ≤ channel.toNat + 1 &&
    channel.toNat + 1 < fixture.startAddress.toNat + fixture.channelCount

/-- Whether two fixtures have a channel in common. A fixture without channels overlaps nothing. -/
def overlaps (fixture other : Fixture) : Bool :=
  fixture.universeNumber == other.universeNumber &&
    0 < fixture.channelCount && 0 < other.channelCount &&
    fixture.startAddress.toNat ≤ other.endAddress && other.startAddress.toNat ≤ fixture.endAddress

/-- The channel of the first entry of a type in the profile. -/
def channelIndex? (fixture : Fixture) (channelType : ChannelType) : Option Nat :=
  match fixture.profile.channels.findIdx? fun channel => channel.channelType == channelType with
  | none => none
  | some offset =>
      let address := fixture.startAddress.toNat + offset
      if 1 ≤ address ∧ address - 1 ≤ largestAddress then some (address - 1) else none

end Fixture

end LightingDesk
