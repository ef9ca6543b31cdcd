import LightingDesk.Identifier
/-!
Where players write. Several players may share one output; the last write to a channel wins.
-/

namespace LightingDesk

class Output (ω : Type) where
  write : ω → UInt16 → UInt8 → ω
  /-- The fixture that a channel belongs to. -/
  fixtureAt : ω → UInt16 → Option FixtureId
  /-- The level of a channel; an output that cannot be read back has none. -/
  level? : ω → UInt16 → Option UInt8 := fun _ _ => none

/-- An output that cannot be read back. -/
structure WriteOnly (ω : Type) where
  output : ω

instance {ω : Type} [Output ω] : Output (WriteOnly ω) where
  write blind channel value := ⟨Output.write blind.output channel value⟩
  fixtureAt blind channel := Output.fixtureAt blind.output channel

end LightingDesk
