/-!
Names of the parts of an act. Each kind of part has a type of its own, so a connection is never
taken for a node.
-/

namespace LightingDesk

structure ActId where
  text : String
deriving DecidableEq, Repr, Inhabited

structure NodeId where
  text : String
deriving DecidableEq, Repr, Inhabited

structure ConnectionId where
  text : String
deriving DecidableEq, Repr, Inhabited

abbrev FixtureId := String

/-- Players are numbered from one in the order in which they are loaded. -/
structure PlayerId where
  number : Nat
deriving DecidableEq, Repr, Inhabited

def PlayerId.label (player : PlayerId) : String := s!"player#{player.number}"

namespace Identifier

def hexDigit (value : Nat) : Char :=
  if value < 10 then Char.ofNat (48 + value) else Char.ofNat (87 + value)

/-- The low `count` hexadecimal digits of `value`, most significant first. -/
def hexDigits : Nat → Nat → List Char
  | 0, _ => []
  | count + 1, value => hexDigits count (value / 16) ++ [hexDigit (value % 16)]

/-- Marks 128 random bits as a random identifier: four bits of version, two of variant. -/
def markRandom (bits : Nat) : Nat :=
  let high := bits / Nat.pow 2 80 % Nat.pow 2 48
  let middle := 0x4000 + bits / Nat.pow 2 64 % Nat.pow 2 12
  let low := Nat.pow 2 63 + bits % Nat.pow 2 62
  (high * Nat.pow 2 16 + middle) * Nat.pow 2 64 + low

/-- A tag and 32 digits, as given to new acts, nodes and connections. -/
def fresh (tag : String) (bits : Nat) : String :=
  tag ++ "_" ++ String.ofList (hexDigits 32 (markRandom bits))

/-- Whether a text is a tag and 32 lower-case hexadecimal digits. -/
def isFresh (tag text : String) : Bool :=
  let digits := text.toList.drop (tag.length + 1)
  text.toList.take (tag.length + 1) == (tag ++ "_").toList && digits.length == 32 &&
    digits.all fun c => ('0' ≤ c && c ≤ '9') || ('a' ≤ c && c ≤ 'f')

end Identifier

def ActId.fresh (bits : Nat) : ActId := ⟨Identifier.fresh "act" bits⟩

def NodeId.fresh (bits : Nat) : NodeId := ⟨Identifier.fresh "node" bits⟩

def ConnectionId.fresh (bits : Nat) : ConnectionId := ⟨Identifier.fresh "conn" bits⟩

end LightingDesk
