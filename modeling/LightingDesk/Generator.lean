import LightingDesk.Identifier
/-!
Random numbers for random trackers. A sequence of them is known by its numbers alone: what it gives when
it is asked for a number below a bound may depend on all the bounds that it was asked for before.
-/

namespace LightingDesk

/-- The number that comes next, given the bounds asked for so far, the latest first, and the next one. -/
abbrev Draws := List Nat → Nat → Nat

structure Generator where
  draws : Draws
  asked : List Nat
deriving Inhabited

namespace Generator

def fresh (draws : Draws) : Generator := ⟨draws, []⟩

/-- A number below `bound`. The remainder changes nothing if the sequence keeps to the bound. -/
def below (generator : Generator) (bound : Nat) : Nat × Generator :=
  (generator.draws generator.asked bound % bound,
    { generator with asked := bound :: generator.asked })

theorem below_lt (generator : Generator) {bound : Nat} (positive : 0 < bound) :
    (generator.below bound).1 < bound :=
  Nat.mod_lt _ positive

end Generator

/-- The numbers of the splitmix sequence. -/
def Draws.splitmix (seed : UInt64) : Draws := fun asked _ =>
  let state := seed + (asked.length + 1).toUInt64 * 0x9e3779b97f4a7c15
  let mixed := (state ^^^ (state >>> 30)) * 0xbf58476d1ce4e5b9
  let mixed := (mixed ^^^ (mixed >>> 27)) * 0x94d049bb133111eb
  (mixed ^^^ (mixed >>> 31)).toNat

/-- Where players get their random numbers from: a seed determines them, and without a seed each player
gets some of its own. -/
structure Seeding where
  seeded : UInt64 → Draws
  unseeded : PlayerId → Draws

namespace Seeding

def generator (seeding : Seeding) (seed : Option UInt64) (player : PlayerId) : Generator :=
  .fresh (match seed with
    | some seed => seeding.seeded seed
    | none => seeding.unseeded player)

/-- Numbers of the splitmix sequence; the noise stands in for seeds that are not given. -/
def splitmix (noise : UInt64) : Seeding :=
  { seeded := Draws.splitmix
    unseeded := fun player => .splitmix (noise + player.number.toUInt64) }

end Seeding

end LightingDesk
