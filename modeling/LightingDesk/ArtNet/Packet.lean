import LightingDesk.Dmx.Universe
/-!
Art-Net packets that carry the levels of one universe: an eight-byte mark, the operation and the
port address with the low byte first, the protocol version and the length with the high byte first.
-/

namespace LightingDesk.ArtNet

def port : Nat := 6454

def headerLength : Nat := 18

/-- The bits of a universe number that a port address keeps. -/
def portAddress (number : UInt16) : UInt16 := number &&& 0x7fff

def lowFirst (word : UInt16) : List UInt8 := [word.toUInt8, (word >>> 8).toUInt8]

def highFirst (word : UInt16) : List UInt8 := [(word >>> 8).toUInt8, word.toUInt8]

/-- The letters of the protocol's name and a zero. -/
def mark : List UInt8 := [65, 114, 116, 45, 78, 101, 116, 0]

def header (number : UInt16) (sequence : UInt8) : List UInt8 :=
  mark ++ lowFirst 0x5000 ++ highFirst 14 ++ [sequence, 0] ++ lowFirst (portAddress number) ++
    highFirst 512

def packet (number : UInt16) (sequence : UInt8) (levels : Levels) : List UInt8 :=
  header number sequence ++ levels.toList

/-- What a packet carries. -/
structure Content where
  portAddress : UInt16
  sequence : UInt8
  levels : List UInt8
deriving DecidableEq, Repr

def wordLowFirst (low high : UInt8) : UInt16 := low.toUInt16 ||| (high.toUInt16 <<< 8)

theorem toNat_wordLowFirst (low high : UInt8) :
    (wordLowFirst low high).toNat = low.toNat + 256 * high.toNat := by
  have lowBound := low.toNat_lt
  have highBound := high.toNat_lt
  have small : high.toNat <<< 8 < 2 ^ 16 := by
    rw [Nat.shiftLeft_eq]
    omega
  have joined := Nat.shiftLeft_add_eq_or_of_lt (i := 8) (b := low.toNat) (by omega) high.toNat
  rw [wordLowFirst, UInt16.toNat_or, UInt16.toNat_shiftLeft]
  simp only [UInt8.toNat_toUInt16, UInt16.reduceToNat, Nat.reduceMod]
  rw [Nat.mod_eq_of_lt small, Nat.or_comm, ← joined, Nat.shiftLeft_eq]
  omega

theorem wordLowFirst_bytes (word : UInt16) :
    wordLowFirst word.toUInt8 (word >>> 8).toUInt8 = word := by
  have bound := word.toNat_lt
  apply UInt16.toNat_inj.1
  rw [toNat_wordLowFirst]
  simp only [UInt16.toNat_toUInt8, UInt16.toNat_shiftRight, UInt16.reduceToNat, Nat.reduceMod,
    Nat.reducePow, Nat.shiftRight_eq_div_pow]
  omega

/-- Reads a packet of levels. -/
def read? (bytes : List UInt8) : Option Content :=
  if bytes.take 12 = mark ++ lowFirst 0x5000 ++ highFirst 14 then
    match bytes.drop 12 with
    | sequence :: _ :: low :: high :: lengthHigh :: lengthLow :: levels =>
        if levels.length = (wordLowFirst lengthLow lengthHigh).toNat then
          some ⟨wordLowFirst low high, sequence, levels⟩
        else none
    | _ => none
  else none

theorem read?_packet (number : UInt16) (sequence : UInt8) (levels : Levels) :
    read? (packet number sequence levels) =
      some ⟨portAddress number, sequence, levels.toList⟩ := by
  simp [read?, packet, header, mark, lowFirst, highFirst, wordLowFirst_bytes, toNat_wordLowFirst]

end LightingDesk.ArtNet
