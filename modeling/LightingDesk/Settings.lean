/-!
Settings of the playback engine.
-/

namespace LightingDesk

structure EngineSettings where
  /-- How many steps a player takes at one instant before it yields. -/
  maxSyncSteps : UInt64
  /-- Where the random sequences of trackers begin. -/
  randomSeed : Option UInt64
  /-- How many events the bus remembers. -/
  eventHistory : UInt64
deriving DecidableEq, Repr

namespace EngineSettings

def standard : EngineSettings := ⟨256, none, 1024⟩

def seeded (seed : UInt64) : EngineSettings := { standard with randomSeed := some seed }

/-- The steps a player takes at one instant, never none. -/
def budget (settings : EngineSettings) : Nat := max settings.maxSyncSteps.toNat 1

end EngineSettings

end LightingDesk
