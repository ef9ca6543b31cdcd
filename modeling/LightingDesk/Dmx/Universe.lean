import LightingDesk.Dmx.Fixture
import LightingDesk.Playback.Output
/-!
A universe: 512 channel levels, the fixtures patched to them, and whether a level has changed since
the levels were last collected.
-/

namespace LightingDesk

inductive PatchError where
  | wrongUniverse (fixture : FixtureId) (actual expected : UInt16)
  | doesNotFit (fixture : FixtureId) (address : UInt16)
  | conflict (fixture other : FixtureId)
deriving DecidableEq, Repr

def PatchError.message (error : PatchError) : String :=
  "Invalid parameter: " ++
    match error with
    | wrongUniverse fixture actual expected =>
        s!"fixture {fixture} is on universe {actual.toNat}, not {expected.toNat}"
    | doesNotFit fixture address => s!"fixture {fixture} does not fit at address {address.toNat}"
    | conflict fixture other => s!"fixture {fixture} conflicts with {other}"

abbrev Levels := Vector UInt8 512

structure Universe where
  number : UInt16
  levels : Levels
  fixtures : List Fixture
  dirty : Bool

namespace Universe

def channelCount : Nat := 512

def empty (number : UInt16) : Universe :=
  { number, levels := Vector.replicate 512 0, fixtures := [], dirty := false }

def fixture? (dmx : Universe) (id : FixtureId) : Option Fixture :=
  dmx.fixtures.find? fun fixture => fixture.id == id

/-- Adds a fixture. It has to be on this universe, fit into its channels, have an id of its own and
overlap none of the others; the first of these that fails is the error. -/
def patch (dmx : Universe) (fixture : Fixture) : Except PatchError Universe :=
  if fixture.universeNumber != dmx.number then
    .error (.wrongUniverse fixture.id fixture.universeNumber dmx.number)
  else if fixture.startAddress == 0 || channelCount < fixture.endAddress then
    .error (.doesNotFit fixture.id fixture.startAddress)
  else
    match dmx.fixtures.find? fun other => other.id == fixture.id || other.overlaps fixture with
    | some other => .error (.conflict fixture.id other.id)
    | none => .ok { dmx with fixtures := dmx.fixtures ++ [fixture] }

/-- Patches fixtures one after the other. -/
def patchAll (dmx : Universe) : List Fixture → Except PatchError Universe
  | [] => .ok dmx
  | fixture :: rest =>
      match dmx.patch fixture with
      | .error error => .error error
      | .ok dmx => dmx.patchAll rest

def unpatch (dmx : Universe) (id : FixtureId) : Universe :=
  { dmx with fixtures := dmx.fixtures.eraseP fun fixture => fixture.id == id }

def level? (dmx : Universe) (channel : UInt16) : Option UInt8 :=
  dmx.levels[channel.toNat]?

/-- Sets a level; a channel past the last one is ignored. -/
def write (dmx : Universe) (channel : UInt16) (value : UInt8) : Universe :=
  if inside : channel.toNat < 512 then
    if dmx.levels[channel.toNat] != value then
      { dmx with levels := dmx.levels.set channel.toNat value, dirty := true }
    else dmx
  else dmx

/-- The first patched fixture that contains a channel. -/
def fixtureAt (dmx : Universe) (channel : UInt16) : Option FixtureId :=
  (dmx.fixtures.find? fun fixture => fixture.containsChannel channel).map Fixture.id

def blackout (dmx : Universe) : Universe :=
  { dmx with levels := Vector.replicate 512 0, dirty := true }

/-- Tells whether levels have changed since this was last asked. -/
def takeDirty (dmx : Universe) : Bool × Universe :=
  (dmx.dirty, { dmx with dirty := false })

end Universe

instance : Output Universe where
  write := Universe.write
  fixtureAt := Universe.fixtureAt
  level? := Universe.level?

end LightingDesk
