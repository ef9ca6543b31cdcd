import LightingDesk.ArtNet.Address
import LightingDesk.ArtNet.Packet
import LightingDesk.OsFault
import LightingDesk.Span
/-!
A sender of Art-Net frames. It numbers the frames from 1 to 255 over and over and sends none sooner
than its interval after the last one that went out.
-/

namespace LightingDesk.ArtNet

/-- A way for packets to leave; the operating system may refuse one. -/
class Link (κ : Type) where
  send : κ → List UInt8 → Except OsFault κ

/-- A link that takes every packet and keeps what it took. -/
structure Wire where
  packets : Array (List UInt8)

instance : Link Wire where
  send wire bytes := .ok ⟨wire.packets.push bytes⟩

/-- A link without a route to anywhere. -/
structure Unplugged where

instance : Link Unplugged where
  send _ _ := .error .networkUnreachable

structure Sender (κ : Type) where
  link : κ
  universeNumber : UInt16
  sequence : UInt8
  lastSent : Option Nat
  interval : Nat

inductive TargetError where
  | invalidSyntax
deriving DecidableEq, Repr

def TargetError.message : TargetError → String
  | invalidSyntax =>
      "DMX error: Invalid Art-Net target address: invalid socket address syntax"

def target (text : String) : Except TargetError SocketAddress :=
  match SocketAddress.parse? text with
  | some address => .ok address
  | none => .error .invalidSyntax

/-- The time between frames at a rate, in whole milliseconds. A rate of zero counts as one. -/
def intervalOf (rate : Nat) : Nat := Span.ofMilliseconds (1000 / max rate 1)

/-- The number after a frame number; zero is left out. -/
def nextSequence (sequence : UInt8) : UInt8 := if sequence = 255 then 1 else sequence + 1

namespace Sender

variable {κ : Type}

def create (link : κ) (universeNumber : UInt16) : Sender κ :=
  { link, universeNumber, sequence := 1, lastSent := none, interval := intervalOf 30 }

def setRate (sender : Sender κ) (rate : Nat) : Sender κ :=
  { sender with interval := intervalOf rate }

/-- Whether the last frame went out less than an interval ago. -/
def isTooSoon (sender : Sender κ) (now : Nat) : Bool :=
  sender.lastSent.any fun last => now - last < sender.interval

/-- Sends a frame, and tells whether it went out. A frame that did not changes nothing. -/
def send [Link κ] (sender : Sender κ) (now : Nat) (levels : Levels) :
    Except OsFault Bool × Sender κ :=
  if sender.isTooSoon now then (.ok false, sender)
  else
    match Link.send sender.link (packet sender.universeNumber sender.sequence levels) with
    | .error fault => (.error fault, sender)
    | .ok link =>
        (.ok true, { sender with
          link
          sequence := nextSequence sender.sequence
          lastSent := some now })

end Sender

end LightingDesk.ArtNet
