import LightingDesk.Dmx.Universe
import Mathlib.Data.List.Induction

/-!
Universes as hosts and players can make them. Fixtures that are patched one after the other have no
channel in common, so a channel belongs to one of them at most (`Universe.Patched.fixtureAt_eq_some`); and
a channel has the level of the last write to it (`Universe.level?_writes`).
-/

namespace LightingDesk

theorem Fixture.overlaps_iff {fixture other : Fixture} : fixture.overlaps other = true ↔
    fixture.universeNumber = other.universeNumber ∧ 0 < fixture.channelCount ∧
      0 < other.channelCount ∧ fixture.startAddress.toNat ≤ other.endAddress ∧
      other.startAddress.toNat ≤ fixture.endAddress := by
  simp [overlaps, and_assoc]

theorem Fixture.containsChannel_iff {fixture : Fixture} {channel : UInt16} :
    fixture.containsChannel channel = true ↔ fixture.startAddress.toNat ≤ channel.toNat + 1 ∧
      channel.toNat + 1 < fixture.startAddress.toNat + fixture.channelCount := by
  simp [containsChannel]

namespace Universe

/-- A universe that has been made by patching and by setting levels. -/
inductive Built : Universe → Prop where
  | empty (number : UInt16) : Built (.empty number)
  | patch {dmx patched} (before : Built dmx) (fixture : Fixture)
      (answer : dmx.patch fixture = .ok patched) : Built patched
  | unpatch {dmx} (before : Built dmx) (id : FixtureId) : Built (dmx.unpatch id)
  | write {dmx} (before : Built dmx) (channel : UInt16) (value : UInt8) : Built (dmx.write channel value)
  | blackout {dmx} (before : Built dmx) : Built dmx.blackout
  | collected {dmx} (before : Built dmx) : Built dmx.takeDirty.2

/-! ### The patch -/

/-- The channels of a fixture lie within those of its universe. -/
structure Holds (dmx : Universe) (fixture : Fixture) : Prop where
  number : fixture.universeNumber = dmx.number
  fits : fixture.endAddress ≤ channelCount

structure Patched (dmx : Universe) : Prop where
  holds : ∀ fixture ∈ dmx.fixtures, dmx.Holds fixture
  apart : dmx.fixtures.Pairwise fun fixture other => fixture.overlaps other = false

/-- Fixtures of one universe that do not overlap have no channel in common. -/
theorem Holds.apart {dmx : Universe} {fixture other : Fixture} {channel : UInt16}
    (held : dmx.Holds fixture) (heldOther : dmx.Holds other)
    (apart : fixture.overlaps other = false) (contains : other.containsChannel channel = true) :
    fixture.containsChannel channel = false := by
  have fits := held.fits
  have fitsOther := heldOther.fits
  rw [Bool.eq_false_iff] at apart ⊢
  refine fun both => apart (Fixture.overlaps_iff.2 ⟨held.number.trans heldOther.number.symm, ?_⟩)
  obtain ⟨after, before⟩ := Fixture.containsChannel_iff.1 both
  obtain ⟨afterOther, beforeOther⟩ := Fixture.containsChannel_iff.1 contains
  unfold Fixture.endAddress Fixture.largestAddress channelCount at *
  omega

theorem write_fixtures (dmx : Universe) (channel : UInt16) (value : UInt8) :
    (dmx.write channel value).fixtures = dmx.fixtures := by
  unfold write
  split
  · split
    · rfl
    · rfl
  · rfl

theorem writes_fixtures (dmx : Universe) (writes : List (UInt16 × UInt8)) :
    (writes.foldl (fun dmx write => dmx.write write.1 write.2) dmx).fixtures = dmx.fixtures := by
  induction writes generalizing dmx with
  | nil => rfl
  | cons write rest ih => exact (ih _).trans (dmx.write_fixtures write.1 write.2)

theorem write_number (dmx : Universe) (channel : UInt16) (value : UInt8) :
    (dmx.write channel value).number = dmx.number := by
  unfold write
  split
  · split
    · rfl
    · rfl
  · rfl

theorem Patched.congr {dmx other : Universe} (patched : dmx.Patched)
    (fixtures : other.fixtures = dmx.fixtures) (number : other.number = dmx.number) :
    other.Patched where
  holds := by
    intro fixture member
    have held := patched.holds fixture (fixtures ▸ member)
    exact ⟨held.number.trans number.symm, held.fits⟩
  apart := fixtures ▸ patched.apart

theorem Patched.patch {dmx patched : Universe} {fixture : Fixture} (before : dmx.Patched)
    (answer : dmx.patch fixture = .ok patched) : patched.Patched := by
  unfold Universe.patch at answer
  split at answer
  next => cases answer
  next number =>
    split at answer
    next => cases answer
    next fits =>
      split at answer
      next => cases answer
      next free =>
        obtain rfl := Except.ok.inj answer
        simp only [bne_iff_ne, not_not] at number
        simp only [Bool.or_eq_true, decide_eq_true_eq, not_or, Nat.not_lt] at fits
        simp only [List.find?_eq_none, Bool.or_eq_true, not_or, Bool.not_eq_true] at free
        constructor
        · intro other member
          rcases List.mem_append.1 member with old | new
          · have held := before.holds other old
            exact ⟨held.number, held.fits⟩
          · rw [List.mem_singleton.1 new]
            exact ⟨number, fits.2⟩
        · refine List.pairwise_append.2 ⟨before.apart, List.pairwise_singleton _ _, ?_⟩
          intro other old new member
          rw [List.mem_singleton.1 member]
          exact (free other old).2

theorem Built.patched {dmx : Universe} (built : dmx.Built) : dmx.Patched := by
  induction built with
  | empty => exact ⟨by simp [Universe.empty], .nil⟩
  | patch _ fixture answer ih => exact ih.patch answer
  | unpatch _ id ih =>
    refine ⟨fun fixture member => ?_, ih.apart.sublist List.eraseP_sublist⟩
    have held := ih.holds fixture (List.mem_of_mem_eraseP member)
    exact ⟨held.number, held.fits⟩
  | write _ channel value ih => exact ih.congr (write_fixtures ..) (write_number ..)
  | blackout _ ih => exact ih.congr rfl rfl
  | collected _ ih => exact ih.congr rfl rfl

/-- A channel belongs to the fixture that contains it. -/
theorem Patched.fixtureAt_eq_some {dmx : Universe} {channel : UInt16} {fixture : Fixture}
    (patched : dmx.Patched) (member : fixture ∈ dmx.fixtures)
    (contains : fixture.containsChannel channel = true) : dmx.fixtureAt channel = some fixture.id := by
  obtain ⟨earlier, later, split⟩ := List.append_of_mem member
  have apart := patched.apart
  rw [split, List.pairwise_append] at apart
  have first : (fixture :: later).find? (fun fixture => fixture.containsChannel channel) =
      some fixture := List.find?_cons_of_pos contains
  rw [fixtureAt, split, List.find?_append, List.find?_eq_none.2, Option.none_or, first,
    Option.map_some]
  intro other before
  have held := patched.holds other (split ▸ List.mem_append_left _ before)
  rw [held.apart (patched.holds fixture member) (apart.2.2 other before fixture List.mem_cons_self)
    contains]
  exact Bool.false_ne_true

/-- To ask for the fixture of a channel is to ask for all that contain it. -/
theorem Patched.any_fixtureAt {dmx : Universe} (patched : dmx.Patched) (channel : UInt16)
    (wanted : FixtureId → Bool) : (dmx.fixtureAt channel).any wanted =
      dmx.fixtures.any fun fixture => wanted fixture.id && fixture.containsChannel channel := by
  rw [Bool.eq_iff_iff, List.any_eq_true]
  constructor
  · intro found
    obtain ⟨id, located, sought⟩ := (Option.any_eq_true _ _).1 found
    obtain ⟨fixture, first, rfl⟩ := Option.map_eq_some_iff.1 located
    have contains := List.find?_some first
    exact ⟨fixture, List.mem_of_find?_eq_some first, Bool.and_eq_true_iff.2 ⟨sought, contains⟩⟩
  · rintro ⟨fixture, member, both⟩
    rw [Bool.and_eq_true] at both
    rw [patched.fixtureAt_eq_some member both.2, Option.any_some]
    exact both.1

/-! ### Levels -/

theorem level?_write (dmx : Universe) (channel other : UInt16) (value : UInt8) :
    (dmx.write channel value).level? other =
      if channel = other ∧ other.toNat < channelCount then some value else dmx.level? other := by
  by_cases own : channel = other
  · subst own
    unfold write channelCount
    by_cases inside : channel.toNat < 512
    · rw [dif_pos inside, if_pos (c := channel = channel ∧ channel.toNat < 512) ⟨rfl, inside⟩]
      split
      next => exact Vector.getElem?_set_self inside
      next stays =>
        rw [level?, Vector.getElem?_eq_getElem inside]
        simpa using stays
    · rw [dif_neg inside, if_neg fun both => inside both.2]
  · rw [if_neg fun both => own both.1, write]
    have apart : channel.toNat ≠ other.toNat := fun same => own (UInt16.toNat_inj.1 same)
    split
    next inside =>
      split
      next => exact Vector.getElem?_set_ne inside apart
      next => rfl
    next => rfl

/-- A channel past the last one has no level, and writes to it change nothing. -/
theorem write_outside (dmx : Universe) {channel : UInt16} (outside : channelCount ≤ channel.toNat)
    (value : UInt8) : dmx.write channel value = dmx := by
  unfold write
  exact dif_neg (Nat.not_lt.2 outside)

/-- The level that the last write to a channel sets, if there is one. -/
def latest? (writes : List (UInt16 × UInt8)) (channel : UInt16) : Option UInt8 :=
  (writes.filter fun write => write.1 == channel).getLast?.map Prod.snd

theorem latest?_append (earlier later : List (UInt16 × UInt8)) (channel : UInt16) :
    latest? (earlier ++ later) channel = (latest? later channel).or (latest? earlier channel) := by
  rw [latest?, List.filter_append, List.getLast?_append, Option.map_or]
  rfl

theorem latest?_eq_none {writes : List (UInt16 × UInt8)} {channel : UInt16}
    (untouched : channel ∉ writes.map Prod.fst) : latest? writes channel = none := by
  rw [latest?, List.filter_eq_nil_iff.2, List.getLast?_nil, Option.map_none]
  intro write member
  rw [beq_iff_eq]
  rintro rfl
  exact untouched (List.mem_map_of_mem member)

/-- A channel has the level of the last write to it. -/
theorem level?_writes (dmx : Universe) (writes : List (UInt16 × UInt8)) {channel : UInt16}
    (inside : channel.toNat < channelCount) :
    (writes.foldl (fun dmx write => dmx.write write.1 write.2) dmx).level? channel =
      (latest? writes channel).or (dmx.level? channel) := by
  induction writes using List.reverseRecOn with
  | nil => rfl
  | append_singleton earlier last ih =>
    rw [List.foldl_append, List.foldl_cons, List.foldl_nil, level?_write, ih, latest?_append]
    by_cases own : last.1 = channel
    · rw [if_pos ⟨own, inside⟩]
      simp [latest?, own]
    · rw [if_neg fun both => own both.1]
      simp [latest?, own]

end Universe

end LightingDesk
