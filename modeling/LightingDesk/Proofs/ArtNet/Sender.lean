import LightingDesk.ArtNet.Sender
import Mathlib.Data.List.Induction

/-!
What a sender puts on its link, whatever a host asks of it and whatever the network does. Frames are
numbered from 1 to 255 over and over, no two of them are closer than the interval of the rate in force,
and each one can be read back from its packet: `Airing.keeps_pace`. Frames that do not go out leave no
mark.
-/

namespace LightingDesk.ArtNet

/-! ### Packets -/

theorem portAddress_toNat (number : UInt16) : (portAddress number).toNat = number.toNat % 32768 := by
  rw [portAddress, UInt16.toNat_and]
  exact Nat.and_two_pow_sub_one_eq_mod number.toNat 15

theorem length_packet (number : UInt16) (sequence : UInt8) (levels : Levels) :
    (packet number sequence levels).length = 530 := by
  simp [packet, header, mark, lowFirst, highFirst]

/-- The number of a frame that goes out after so many others. -/
def sequenceAt (earlier : Nat) : UInt8 := (earlier % 255 + 1).toUInt8

theorem sequenceAt_toNat (earlier : Nat) : (sequenceAt earlier).toNat = earlier % 255 + 1 := by
  have bound := Nat.mod_lt earlier (show 0 < 255 by decide)
  rw [sequenceAt, UInt8.toNat_ofNat']
  omega

theorem nextSequence_sequenceAt (earlier : Nat) :
    nextSequence (sequenceAt earlier) = sequenceAt (earlier + 1) := by
  have bound := Nat.mod_lt earlier (show 0 < 255 by decide)
  have last : sequenceAt earlier = 255 ↔ earlier % 255 = 254 := by
    rw [← UInt8.toNat_inj, sequenceAt_toNat]
    change _ = 255 ↔ _
    omega
  rw [nextSequence, ← UInt8.toNat_inj, sequenceAt_toNat]
  split
  next wraps =>
    change 1 = _
    have ends := last.1 wraps
    omega
  next goesOn =>
    have within : earlier % 255 ≠ 254 := fun ends => goesOn (last.2 ends)
    rw [UInt8.toNat_add, sequenceAt_toNat]
    change (_ + 1) % 256 = _
    omega

/-! ### One call -/

namespace Sender

variable {κ : Type} {sender : Sender κ} {now : Nat}

theorem isTooSoon_iff : sender.isTooSoon now = true ↔
    ∃ last, sender.lastSent = some last ∧ now - last < sender.interval := by
  simp [isTooSoon, Option.any_eq_true]

/-- A call ends in one of three ways, and only one of them changes the sender. -/
theorem send_cases [Link κ] (sender : Sender κ) (now : Nat) (levels : Levels) :
    (sender.isTooSoon now = true ∧ sender.send now levels = (.ok false, sender)) ∨
    (∃ fault, sender.isTooSoon now = false ∧ sender.send now levels = (.error fault, sender)) ∨
    ∃ link, sender.isTooSoon now = false ∧
      Link.send sender.link (packet sender.universeNumber sender.sequence levels) = .ok link ∧
      sender.send now levels =
        (.ok true,
          { sender with link, sequence := nextSequence sender.sequence, lastSent := some now }) := by
  rw [send]
  by_cases soon : sender.isTooSoon now = true
  · exact .inl ⟨soon, if_pos soon⟩
  · rw [if_neg soon]
    have late := Bool.eq_false_iff.2 soon
    cases sent : Link.send sender.link (packet sender.universeNumber sender.sequence levels) with
    | error fault => exact .inr (.inl ⟨fault, late, rfl⟩)
    | ok link => exact .inr (.inr ⟨link, late, rfl, rfl⟩)

end Sender

/-! ### Links that are listened to -/

/-- A link with the packets that it has taken. -/
structure Tapped (κ : Type) where
  link : κ
  packets : List (List UInt8)

instance {κ : Type} [Link κ] : Link (Tapped κ) where
  send tapped bytes :=
    (Link.send tapped.link bytes).map fun link => ⟨link, tapped.packets ++ [bytes]⟩

theorem Tapped.packets_of_send {κ : Type} [Link κ] {tapped later : Tapped κ} {bytes : List UInt8}
    (taken : Link.send tapped bytes = .ok later) : later.packets = tapped.packets ++ [bytes] := by
  change (Link.send tapped.link bytes).map _ = _ at taken
  cases sent : Link.send tapped.link bytes with
  | error fault =>
    rw [sent] at taken
    cases taken
  | ok link =>
    rw [sent] at taken
    cases taken
    rfl

/-- What happens to a sender. The network may change at any time, so that a link that has refused a
packet takes the same packet later on. -/
inductive Call (κ : Type) where
  | setRate (rate : Nat)
  | send (now : Nat) (levels : Levels)
  | changeNetwork (link : κ)

/-- The time and the levels of a frame that a sender is given. -/
def Call.given? {κ : Type} : Call κ → Option (Nat × Levels)
  | send now levels => some (now, levels)
  | setRate _ | changeNetwork _ => none

/-- A frame that has gone out, and the rate that was in force. -/
structure Frame where
  time : Nat
  rate : Nat
  levels : Levels

/-- A sender, the rate that it was set to last, and the frames that have gone out. -/
structure Airing (κ : Type) where
  sender : Sender (Tapped κ)
  rate : Nat
  frames : List Frame

namespace Airing

variable {κ : Type} [Link κ]

/-- A new sender has a rate of 30 frames a second. -/
def begin (link : κ) (number : UInt16) : Airing κ :=
  { sender := .create ⟨link, []⟩ number, rate := 30, frames := [] }

def call (airing : Airing κ) : Call κ → Airing κ
  | .setRate rate => { airing with sender := airing.sender.setRate rate, rate }
  | .changeNetwork link =>
      { airing with sender := { airing.sender with link := { airing.sender.link with link } } }
  | .send now levels =>
      match airing.sender.send now levels with
      | (.ok true, sender) =>
          { airing with sender, frames := airing.frames ++ [⟨now, airing.rate, levels⟩] }
      | (_, sender) => { airing with sender }

def callAll (airing : Airing κ) (calls : List (Call κ)) : Airing κ := calls.foldl call airing

/-- What a sender of a universe knows and what has gone over its link after some calls, told by the
frames that have gone out. -/
structure Keeps (number : UInt16) (calls : List (Call κ)) (airing : Airing κ) : Prop where
  universeNumber : airing.sender.universeNumber = number
  sequence : airing.sender.sequence = sequenceAt airing.frames.length
  lastSent : airing.sender.lastSent = airing.frames.getLast?.map Frame.time
  interval : airing.sender.interval = intervalOf airing.rate
  packets : airing.sender.link.packets = airing.frames.mapIdx fun earlier frame =>
    packet number (sequenceAt earlier) frame.levels
  given : (airing.frames.map fun frame => (frame.time, frame.levels)).Sublist
    (calls.filterMap Call.given?)
  spaced : (calls.filterMap Call.given?).Pairwise (fun one other => one.1 ≤ other.1) →
    airing.frames.Pairwise fun earlier later => earlier.time + intervalOf later.rate ≤ later.time

namespace Keeps

variable {number : UInt16} {calls : List (Call κ)} {airing : Airing κ}

omit [Link κ] in
theorem begin (link : κ) (number : UInt16) : Keeps number [] (begin link number) where
  universeNumber := rfl
  sequence := rfl
  lastSent := rfl
  interval := rfl
  packets := rfl
  given := .slnil
  spaced := fun _ => .nil

omit [Link κ] in
/-- A frame that is not refused is far enough from every frame before it. -/
theorem spaced_of_late (keeps : Keeps number calls airing) {now : Nat}
    (inOrder : (calls.filterMap Call.given?).Pairwise fun one other => one.1 ≤ other.1)
    (before : ∀ given ∈ calls.filterMap Call.given?, given.1 ≤ now)
    (late : airing.sender.isTooSoon now = false) :
    ∀ earlier ∈ airing.frames, earlier.time + intervalOf airing.rate ≤ now := by
  intro earlier member
  cases ends : airing.frames.getLast? with
  | none =>
    rw [List.getLast?_eq_none_iff.1 ends] at member
    exact absurd member List.not_mem_nil
  | some last =>
    have sent := keeps.lastSent
    rw [ends] at sent
    have wait : ¬now - last.time < intervalOf airing.rate := by
      intro soon
      rw [← keeps.interval] at soon
      rw [Sender.isTooSoon_iff.2 ⟨_, sent, soon⟩] at late
      exact Bool.noConfusion late
    obtain ⟨init, split⟩ := List.getLast?_eq_some_iff.1 ends
    have listed : last ∈ airing.frames := split ▸ List.mem_append_right _ List.mem_cons_self
    have past : last.time ≤ now :=
      before _ (keeps.given.subset (List.mem_map_of_mem listed))
    have spaced := keeps.spaced inOrder
    rw [split, List.pairwise_append] at spaced
    rw [split, List.mem_append, List.mem_singleton] at member
    rcases member with member | rfl
    · have gap := spaced.2.2 earlier member last List.mem_cons_self
      omega
    · omega

theorem call (keeps : Keeps number calls airing) (call : Call κ) :
    Keeps number (calls ++ [call]) (airing.call call) := by
  have more : (calls.filterMap Call.given?).Sublist ((calls ++ [call]).filterMap Call.given?) :=
    (List.sublist_append_left ..).filterMap _
  -- a call that puts nothing on the link
  have still : Keeps number (calls ++ [call]) airing :=
    { keeps with
      given := keeps.given.trans more
      spaced := fun inOrder => keeps.spaced (inOrder.sublist more) }
  cases call with
  | setRate rate => exact { still with interval := rfl }
  | changeNetwork link => exact { still with }
  | send now levels =>
    rw [Airing.call]
    rcases airing.sender.send_cases now levels with
      ⟨-, refused⟩ | ⟨fault, -, failed⟩ | ⟨link, late, taken, sent⟩
    · rw [refused]
      exact still
    · rw [failed]
      exact still
    · rw [sent]
      have told : (calls ++ [Call.send now levels]).filterMap Call.given? =
          calls.filterMap Call.given? ++ [(now, levels)] := List.filterMap_append
      refine ⟨keeps.universeNumber, ?_, ?_, keeps.interval, ?_, ?_, fun inOrder => ?_⟩
      · rw [List.length_append, List.length_singleton, ← nextSequence_sequenceAt, ← keeps.sequence]
      · rw [List.getLast?_concat]
        rfl
      · rw [List.mapIdx_concat, Tapped.packets_of_send taken, keeps.packets, keeps.universeNumber,
          keeps.sequence]
      · rw [told, List.map_append]
        exact keeps.given.append (.refl _)
      · rw [told, List.pairwise_append] at inOrder
        refine List.pairwise_append.2 ⟨keeps.spaced inOrder.1, List.pairwise_singleton .., ?_⟩
        intro earlier member later added
        rw [List.mem_singleton.1 added]
        exact keeps.spaced_of_late inOrder.1
          (fun given listed => inOrder.2.2 given listed _ List.mem_cons_self) late earlier member

theorem callAll (keeps : Keeps number calls airing) (more : List (Call κ)) :
    Keeps number (calls ++ more) (airing.callAll more) := by
  induction more generalizing calls airing with
  | nil => rwa [List.append_nil]
  | cons call rest ih =>
    rw [List.append_cons]
    exact ih (keeps.call call)

omit [Link κ] in
theorem packet_at (keeps : Keeps number calls airing) {earlier : Nat} {bytes : List UInt8}
    (gone : airing.sender.link.packets[earlier]? = some bytes) :
    ∃ frame, airing.frames[earlier]? = some frame ∧
      bytes = packet number (sequenceAt earlier) frame.levels := by
  rw [keeps.packets, List.getElem?_mapIdx, Option.map_eq_some_iff] at gone
  obtain ⟨frame, listed, rfl⟩ := gone
  exact ⟨frame, listed, rfl⟩

end Keeps

/-- What a sender of a universe has put on its link, and how it goes on. -/
structure Paced (number : UInt16) (calls : List (Call κ)) (airing : Airing κ) : Prop where
  /-- Frames go out in the order in which they are given. -/
  given : (airing.frames.map fun frame => (frame.time, frame.levels)).Sublist
    (calls.filterMap Call.given?)
  complete : airing.sender.link.packets.length = airing.frames.length
  readable : ∀ earlier frame, airing.frames[earlier]? = some frame → ∃ bytes content,
    airing.sender.link.packets[earlier]? = some bytes ∧ bytes.length = 530 ∧
      read? bytes = some content ∧ content.portAddress.toNat = number.toNat % 32768 ∧
      content.sequence.toNat = earlier % 255 + 1 ∧ content.levels = frame.levels.toList
  numbered : ∀ earlier bytes next, airing.sender.link.packets[earlier]? = some bytes →
    airing.sender.link.packets[earlier + 1]? = some next → ∃ content following,
      read? bytes = some content ∧ read? next = some following ∧ content.sequence ≠ 0 ∧
      following.sequence ≠ 0 ∧ following.sequence ≠ content.sequence
  spaced : airing.frames.Pairwise fun earlier later =>
    earlier.time + intervalOf later.rate ≤ later.time
  /-- Only the last frame that has gone out makes the sender wait. -/
  refuses : ∀ now levels, (airing.sender.send now levels).1 = .ok false ↔
    ∃ last, airing.frames.getLast? = some last ∧ now - last.time < intervalOf airing.rate
  unmoved : ∀ now levels, (airing.sender.send now levels).1 ≠ .ok true →
    (airing.sender.send now levels).2 = airing.sender

/-- Calls at times that do not decrease make a sender put frames on its link that are numbered, spaced and
readable; a frame that the sender refuses or the link does not take leaves the sender as it was. -/
theorem keeps_pace (link : κ) (number : UInt16) (calls : List (Call κ))
    (inOrder : (calls.filterMap Call.given?).Pairwise fun one other => one.1 ≤ other.1) :
    Paced number calls ((begin link number).callAll calls) := by
  have keeps : Keeps number calls ((begin link number).callAll calls) :=
    (Keeps.begin link number).callAll calls
  generalize (begin link number).callAll calls = airing at keeps ⊢
  refine ⟨keeps.given, ?_, ?_, ?_, keeps.spaced inOrder, ?_, ?_⟩
  · rw [keeps.packets, List.length_mapIdx]
  · intro earlier frame listed
    refine ⟨_, _, ?_, length_packet number (sequenceAt earlier) frame.levels, read?_packet ..,
      portAddress_toNat number, sequenceAt_toNat earlier, rfl⟩
    rw [keeps.packets, List.getElem?_mapIdx, listed]
    rfl
  · intro earlier bytes next gone follows
    obtain ⟨frame, -, rfl⟩ := keeps.packet_at gone
    obtain ⟨later, -, rfl⟩ := keeps.packet_at follows
    refine ⟨_, _, read?_packet .., read?_packet .., ?_, ?_, ?_⟩ <;>
      simp only [ne_eq, ← UInt8.toNat_inj, sequenceAt_toNat, UInt8.toNat_zero] <;> omega
  · intro now levels
    have soon : airing.sender.isTooSoon now = true ↔
        ∃ last, airing.frames.getLast? = some last ∧ now - last.time < intervalOf airing.rate := by
      simp [Sender.isTooSoon_iff, keeps.lastSent, keeps.interval]
    rw [← soon]
    rcases airing.sender.send_cases now levels with
      ⟨early, answer⟩ | ⟨fault, late, answer⟩ | ⟨link, late, -, answer⟩ <;> simp [*]
  · intro now levels silent
    rcases airing.sender.send_cases now levels with
      ⟨-, answer⟩ | ⟨fault, -, answer⟩ | ⟨link, -, -, answer⟩
    · rw [answer]
    · rw [answer]
    · rw [answer] at silent
      exact absurd rfl silent

end Airing

/-! ### A cable that is pulled out for a while -/

structure Cable where
  plugged : Bool

instance : Link Cable where
  send cable _ := if cable.plugged then .ok cable else .error .networkUnreachable

/-- At one frame a second, a frame that comes too soon, one that is lost and one that goes out. -/
def patchy : List (Call Cable) :=
  [.setRate 1, .send 5 (Vector.replicate 512 0), .send 10 (Vector.replicate 512 255),
    .changeNetwork ⟨false⟩, .send 1000000005 (Vector.replicate 512 255),
    .changeNetwork ⟨true⟩, .send 1000000006 (Vector.replicate 512 128)]

theorem Airing.keeps_pace_patchy :
    (patchy.filterMap Call.given?).Pairwise (fun one other => one.1 ≤ other.1) ∧
    ((begin ⟨true⟩ 32775).callAll patchy).frames.map Frame.time = [5, 1000000006] ∧
    Paced 32775 patchy ((begin ⟨true⟩ 32775).callAll patchy) := by
  have given : patchy.filterMap Call.given? =
      [(5, Vector.replicate 512 0), (10, Vector.replicate 512 255),
        (1000000005, Vector.replicate 512 255), (1000000006, Vector.replicate 512 128)] := rfl
  have inOrder : (patchy.filterMap Call.given?).Pairwise fun one other => one.1 ≤ other.1 := by
    simp [given]
  have times : ((begin ⟨true⟩ 32775).callAll patchy).frames.map Frame.time = [5, 1000000006] := by
    decide +kernel
  exact ⟨inOrder, times, keeps_pace _ _ _ inOrder⟩

end LightingDesk.ArtNet
