import LightingDesk.Proofs.Universe
import Mathlib.Data.List.Nodup

/-!
The patch of a universe, whatever a host has done to it. The fixtures have ids of their own, lie within the
channels of the universe and share none of them, and a fixture is patched exactly if that stays so:
`Universe.patchwork_changeAll`.
-/

namespace LightingDesk

/-! ### Ranges of channels -/

/-- The addresses of a fixture are addresses of a universe. -/
structure Fixture.Fits (fixture : Fixture) : Prop where
  starts : 1 ≤ fixture.startAddress.toNat
  ends : fixture.startAddress.toNat + fixture.profile.channels.length ≤ Universe.channelCount + 1

/-- A channel that two fixtures contain. -/
def Fixture.Shares (fixture other : Fixture) : Prop :=
  ∃ channel, fixture.containsChannel channel = true ∧ other.containsChannel channel = true

namespace Fixture

variable {fixture other : Fixture} {channel : UInt16}

/-- The two tests of a patch, which count in words that do not overflow, say that the fixture fits. -/
theorem fits_iff : fixture.Fits ↔
    fixture.startAddress ≠ 0 ∧ fixture.endAddress ≤ Universe.channelCount := by
  have nonzero : fixture.startAddress ≠ 0 ↔ fixture.startAddress.toNat ≠ 0 := by
    rw [Ne, ← UInt16.toNat_inj, UInt16.toNat_zero]
  rw [nonzero, endAddress, channelCount, largestAddress, Universe.channelCount]
  constructor
  · rintro ⟨starts, ends⟩
    rw [Universe.channelCount] at ends
    omega
  · rintro ⟨starts, ends⟩
    have bound := fixture.startAddress.toNat_lt
    exact ⟨by omega, by rw [Universe.channelCount]; omega⟩

theorem Fits.channelCount_eq (fits : fixture.Fits) :
    fixture.channelCount = fixture.profile.channels.length := by
  have ends := fits.ends
  rw [channelCount, largestAddress]
  rw [Universe.channelCount] at ends
  omega

theorem Fits.endAddress_eq (fits : fixture.Fits) : fixture.endAddress =
    fixture.startAddress.toNat + fixture.profile.channels.length - 1 := by
  have ends := fits.ends
  rw [endAddress, fits.channelCount_eq, largestAddress]
  rw [Universe.channelCount] at ends
  omega

theorem Fits.containsChannel_iff (fits : fixture.Fits) : fixture.containsChannel channel = true ↔
    fixture.startAddress.toNat - 1 ≤ channel.toNat ∧
      channel.toNat < fixture.startAddress.toNat - 1 + fixture.profile.channels.length := by
  have starts := fits.starts
  rw [Fixture.containsChannel_iff, fits.channelCount_eq]
  omega

theorem Fits.inside (fits : fixture.Fits) (contains : fixture.containsChannel channel = true) :
    channel.toNat < Universe.channelCount := by
  have ends := fits.ends
  have starts := fits.starts
  have within := (fits.containsChannel_iff.1 contains).2
  omega

/-- The channel so many places behind the first. -/
theorem Fits.exists_channel (fits : fixture.Fits) {offset : Nat}
    (inside : offset < fixture.profile.channels.length) :
    ∃ channel : UInt16, channel.toNat = fixture.startAddress.toNat - 1 + offset ∧
      fixture.containsChannel channel = true := by
  have ends := fits.ends
  have starts := fits.starts
  rw [Universe.channelCount] at ends
  have small : fixture.startAddress.toNat - 1 + offset < UInt16.size := by
    rw [UInt16.size]
    omega
  have number : (UInt16.ofNatLT _ small).toNat = _ := UInt16.toNat_ofNatLT
  refine ⟨.ofNatLT _ small, number, fits.containsChannel_iff.2 ?_⟩
  rw [number]
  omega

/-- Fixtures of one universe overlap exactly if they share a channel: the later of their first channels
is then one of both. -/
theorem Fits.overlaps_iff (fits : fixture.Fits) (fitsOther : other.Fits)
    (same : fixture.universeNumber = other.universeNumber) :
    fixture.overlaps other = true ↔ fixture.Shares other := by
  have starts := fits.starts
  have startsOther := fitsOther.starts
  rw [Fixture.overlaps_iff, fits.channelCount_eq, fitsOther.channelCount_eq, fits.endAddress_eq,
    fitsOther.endAddress_eq]
  constructor
  · rintro ⟨-, some, someOther, before, beforeOther⟩
    rcases Nat.le_total fixture.startAddress.toNat other.startAddress.toNat with first | first
    · obtain ⟨channel, number, contains⟩ := fitsOther.exists_channel someOther
      refine ⟨channel, fits.containsChannel_iff.2 ?_, contains⟩
      omega
    · obtain ⟨channel, number, contains⟩ := fits.exists_channel some
      refine ⟨channel, contains, fitsOther.containsChannel_iff.2 ?_⟩
      omega
  · rintro ⟨channel, contains, containsOther⟩
    have range := fits.containsChannel_iff.1 contains
    have rangeOther := fitsOther.containsChannel_iff.1 containsOther
    refine ⟨same, ?_⟩
    omega

theorem Shares.symm (shares : fixture.Shares other) : other.Shares fixture := by
  obtain ⟨channel, contains, containsOther⟩ := shares
  exact ⟨channel, containsOther, contains⟩

theorem channelIndex?_eq_some (fits : fixture.Fits) {channelType : ChannelType} {offset : Nat}
    (first : (fixture.profile.channels.findIdx? fun entry => entry.channelType == channelType) =
      some offset) :
    fixture.channelIndex? channelType = some (fixture.startAddress.toNat - 1 + offset) := by
  have starts := fits.starts
  have ends := fits.ends
  obtain ⟨inside, -⟩ := List.findIdx?_eq_some_iff_getElem.1 first
  rw [Universe.channelCount] at ends
  rw [channelIndex?, first]
  dsimp only
  rw [if_pos]
  · congr 1
    omega
  · rw [largestAddress]
    omega

end Fixture

namespace Universe

/-! ### What a host does to a universe -/

inductive Change where
  | patch (fixture : Fixture)
  | unpatch (id : FixtureId)
  | write (channel : UInt16) (value : UInt8)
  | blackout
  | collect

/-- Carries out a change. If a patch is refused, the host keeps the universe that it has. -/
def change (dmx : Universe) : Change → Universe
  | .patch fixture =>
      match dmx.patch fixture with
      | .ok patched => patched
      | .error _ => dmx
  | .unpatch id => dmx.unpatch id
  | .write channel value => dmx.write channel value
  | .blackout => dmx.blackout
  | .collect => dmx.takeDirty.2

def changeAll (dmx : Universe) (changes : List Change) : Universe := changes.foldl change dmx

theorem Built.change {dmx : Universe} (built : dmx.Built) (change : Change) :
    (dmx.change change).Built := by
  cases change with
  | patch fixture =>
    unfold Universe.change
    dsimp only
    split
    next patched answer => exact built.patch fixture answer
    next => exact built
  | unpatch id => exact built.unpatch id
  | write channel value => exact built.write channel value
  | blackout => exact built.blackout
  | collect => exact built.collected

theorem built_changeAll (number : UInt16) (changes : List Change) :
    ((empty number).changeAll changes).Built := by
  induction changes using List.reverseRecOn with
  | nil => exact .empty number
  | append_singleton earlier last ih =>
    rw [changeAll, List.foldl_append]
    exact ih.change last

/-! ### The patch -/

/-- What it takes to patch a fixture. -/
structure Admits (dmx : Universe) (fixture : Fixture) : Prop where
  number : fixture.universeNumber = dmx.number
  fits : fixture.Fits
  new : ∀ other ∈ dmx.fixtures, other.id ≠ fixture.id
  free : ∀ other ∈ dmx.fixtures, ¬other.Shares fixture

/-- The fixtures were admitted one after the other. -/
structure Laid (dmx : Universe) : Prop where
  number : ∀ fixture ∈ dmx.fixtures, fixture.universeNumber = dmx.number
  fits : ∀ fixture ∈ dmx.fixtures, fixture.Fits
  distinct : (dmx.fixtures.map Fixture.id).Nodup
  apart : dmx.fixtures.Pairwise fun fixture other => ¬fixture.Shares other

section Patch

variable {dmx : Universe} {fixture : Fixture}

/-- Patching tests what it takes, with the ranges of the fixtures in place of their channels. -/
theorem Laid.patch_eq_ok_iff (laid : dmx.Laid) {patched : Universe} : dmx.patch fixture = .ok patched ↔
    dmx.Admits fixture ∧ patched = { dmx with fixtures := dmx.fixtures ++ [fixture] } := by
  have clash (number : fixture.universeNumber = dmx.number) (fits : fixture.Fits) :
      (dmx.fixtures.find? fun other => other.id == fixture.id || other.overlaps fixture) = none ↔
        ∀ other ∈ dmx.fixtures, other.id ≠ fixture.id ∧ ¬other.Shares fixture := by
    rw [List.find?_eq_none]
    refine forall₂_congr fun other member => ?_
    rw [Bool.or_eq_true, not_or, beq_iff_eq, (laid.fits other member).overlaps_iff fits
      ((laid.number other member).trans number.symm)]
  unfold Universe.patch
  split
  next wrong =>
    rw [bne_iff_ne] at wrong
    exact ⟨fun answer => (nomatch answer), fun admitted => absurd admitted.1.number wrong⟩
  next number =>
    rw [bne_iff_ne, not_not] at number
    split
    next unfit =>
      refine ⟨fun answer => (nomatch answer), fun admitted => ?_⟩
      have fits := Fixture.fits_iff.1 admitted.1.fits
      simp [fits.1, Nat.not_lt.2 fits.2] at unfit
    next fit =>
      have fits : fixture.Fits := by
        rw [Fixture.fits_iff]
        simpa using fit
      split
      next other found =>
        refine ⟨fun answer => (nomatch answer), fun admitted => ?_⟩
        have free := (clash number fits).2 fun other member =>
          ⟨admitted.1.new other member, admitted.1.free other member⟩
        rw [free] at found
        cases found
      next free =>
        have apart := (clash number fits).1 free
        rw [Except.ok.injEq]
        exact ⟨fun same => ⟨⟨number, fits, fun other member => (apart other member).1,
          fun other member => (apart other member).2⟩, same.symm⟩, fun admitted => admitted.2.symm⟩

theorem Laid.patch (laid : dmx.Laid) (admits : dmx.Admits fixture) :
    Laid { dmx with fixtures := dmx.fixtures ++ [fixture] } where
  number := by
    intro other member
    rcases List.mem_append.1 member with old | new
    · exact laid.number other old
    · exact List.mem_singleton.1 new ▸ admits.number
  fits := by
    intro other member
    rcases List.mem_append.1 member with old | new
    · exact laid.fits other old
    · exact List.mem_singleton.1 new ▸ admits.fits
  distinct := by
    rw [List.map_append, List.nodup_append]
    refine ⟨laid.distinct, List.nodup_singleton _, ?_⟩
    intro id old other new
    obtain ⟨listed, member, rfl⟩ := List.mem_map.1 old
    rw [List.map_singleton, List.mem_singleton] at new
    exact new ▸ admits.new listed member
  apart := by
    refine List.pairwise_append.2 ⟨laid.apart, List.pairwise_singleton _ _, ?_⟩
    intro other old new member
    exact List.mem_singleton.1 member ▸ admits.free other old

theorem Laid.congr {other : Universe} (laid : dmx.Laid) (fixtures : other.fixtures = dmx.fixtures)
    (number : other.number = dmx.number) : other.Laid where
  number := fixtures ▸ number ▸ laid.number
  fits := fixtures ▸ laid.fits
  distinct := fixtures ▸ laid.distinct
  apart := fixtures ▸ laid.apart

theorem Built.laid (built : dmx.Built) : dmx.Laid := by
  induction built with
  | empty => exact ⟨by simp [Universe.empty], by simp [Universe.empty], List.nodup_nil, .nil⟩
  | patch _ fixture answer ih =>
    obtain ⟨admits, rfl⟩ := ih.patch_eq_ok_iff.1 answer
    exact ih.patch admits
  | @unpatch dmx _ id ih =>
    have fewer : (dmx.unpatch id).fixtures.Sublist dmx.fixtures := List.eraseP_sublist
    exact ⟨fun fixture member => ih.number fixture (List.mem_of_mem_eraseP member),
      fun fixture member => ih.fits fixture (List.mem_of_mem_eraseP member),
      ih.distinct.sublist (fewer.map _), ih.apart.sublist fewer⟩
  | write _ channel value ih => exact ih.congr (write_fixtures ..) (write_number ..)
  | blackout _ ih => exact ih.congr rfl rfl
  | collected _ ih => exact ih.congr rfl rfl

theorem Laid.fixture?_eq_some_iff (laid : dmx.Laid) {id : FixtureId} :
    dmx.fixture? id = some fixture ↔ fixture ∈ dmx.fixtures ∧ fixture.id = id := by
  constructor
  · intro found
    exact ⟨List.mem_of_find?_eq_some found, by simpa using List.find?_some found⟩
  · rintro ⟨member, rfl⟩
    cases found : dmx.fixture? fixture.id with
    | none => simpa using List.find?_eq_none.1 found fixture member
    | some other =>
      have named : other.id = fixture.id := by simpa using List.find?_some found
      rw [List.inj_on_of_nodup_map laid.distinct (List.mem_of_find?_eq_some found) member named]

theorem Built.fixtureAt_eq_some_iff (built : dmx.Built) {channel : UInt16} {id : FixtureId} :
    dmx.fixtureAt channel = some id ↔
      ∃ fixture, dmx.fixture? id = some fixture ∧ fixture.containsChannel channel = true := by
  constructor
  · intro located
    obtain ⟨fixture, first, rfl⟩ := Option.map_eq_some_iff.1 located
    have contains := List.find?_some first
    exact ⟨fixture, built.laid.fixture?_eq_some_iff.2 ⟨List.mem_of_find?_eq_some first, rfl⟩, contains⟩
  · rintro ⟨fixture, found, contains⟩
    obtain ⟨member, rfl⟩ := built.laid.fixture?_eq_some_iff.1 found
    exact built.patched.fixtureAt_eq_some member contains

theorem Built.fixtureAt_congr {other : Universe} (built : dmx.Built) (builtOther : other.Built)
    (same : other.fixtures.Perm dmx.fixtures) (channel : UInt16) :
    other.fixtureAt channel = dmx.fixtureAt channel := by
  ext id
  rw [built.fixtureAt_eq_some_iff, builtOther.fixtureAt_eq_some_iff]
  simp only [built.laid.fixture?_eq_some_iff, builtOther.laid.fixture?_eq_some_iff, same.mem_iff]

end Patch

/-- Everything that hosts and players can rely on in the patch of a universe. -/
structure Patchwork (dmx : Universe) : Prop where
  distinct : (dmx.fixtures.map Fixture.id).Nodup
  number : ∀ fixture ∈ dmx.fixtures, fixture.universeNumber = dmx.number
  inside : ∀ fixture ∈ dmx.fixtures, ∀ channel, fixture.containsChannel channel = true →
    channel.toNat < 512
  apart : dmx.fixtures.Pairwise fun fixture other => ∀ channel,
    ¬(fixture.containsChannel channel = true ∧ other.containsChannel channel = true)
  located : ∀ channel id, dmx.fixtureAt channel = some id ↔
    ∃ fixture, dmx.fixture? id = some fixture ∧ fixture.containsChannel channel = true
  /-- The order in which fixtures were patched does not matter. -/
  unordered : ∀ number changes, ((empty number).changeAll changes).fixtures.Perm dmx.fixtures →
    ∀ channel, ((empty number).changeAll changes).fixtureAt channel = dmx.fixtureAt channel
  /-- Addresses are counted here without a bound. -/
  accepted : ∀ fixture, (∃ patched, dmx.patch fixture = .ok patched) ↔
    fixture.universeNumber = dmx.number ∧ 1 ≤ fixture.startAddress.toNat ∧
      fixture.startAddress.toNat + fixture.profile.channels.length ≤ 513 ∧
      dmx.fixture? fixture.id = none ∧
      ∀ other ∈ dmx.fixtures, ∀ channel,
        ¬(fixture.containsChannel channel = true ∧ other.containsChannel channel = true)
  added : ∀ fixture patched, dmx.patch fixture = .ok patched →
    dmx.change (.patch fixture) = { dmx with fixtures := dmx.fixtures ++ [fixture] }
  refused : ∀ fixture error, dmx.patch fixture = .error error → dmx.change (.patch fixture) = dmx
  /-- A type of channel stands for the first channel of its kind. -/
  indexed : ∀ fixture ∈ dmx.fixtures, ∀ entry ∈ fixture.profile.channels, ∃ offset, ∃ channel : UInt16,
    (fixture.profile.channels.map FixtureChannel.channelType)[offset]? = some entry.channelType ∧
    (∀ earlier < offset, (fixture.profile.channels.map FixtureChannel.channelType)[earlier]? ≠
      some entry.channelType) ∧
    channel.toNat = fixture.startAddress.toNat - 1 + offset ∧
    fixture.channelIndex? entry.channelType = some channel.toNat ∧
    dmx.fixtureAt channel = some fixture.id

theorem Laid.accepted_iff {dmx : Universe} (laid : dmx.Laid) (fixture : Fixture) :
    (∃ patched, dmx.patch fixture = .ok patched) ↔ dmx.Admits fixture :=
  ⟨fun ⟨_, answer⟩ => (laid.patch_eq_ok_iff.1 answer).1,
    fun admits => ⟨_, laid.patch_eq_ok_iff.2 ⟨admits, rfl⟩⟩⟩

theorem Built.indexed {dmx : Universe} (built : dmx.Built) {fixture : Fixture}
    (member : fixture ∈ dmx.fixtures) {entry : FixtureChannel}
    (listed : entry ∈ fixture.profile.channels) : ∃ offset, ∃ channel : UInt16,
    (fixture.profile.channels.map FixtureChannel.channelType)[offset]? = some entry.channelType ∧
    (∀ earlier < offset, (fixture.profile.channels.map FixtureChannel.channelType)[earlier]? ≠
      some entry.channelType) ∧
    channel.toNat = fixture.startAddress.toNat - 1 + offset ∧
    fixture.channelIndex? entry.channelType = some channel.toNat ∧
    dmx.fixtureAt channel = some fixture.id := by
  have fits := built.laid.fits fixture member
  cases first : fixture.profile.channels.findIdx? fun other =>
      other.channelType == entry.channelType with
  | none => simpa using List.findIdx?_eq_none_iff.1 first entry listed
  | some offset =>
    obtain ⟨inside, own, before⟩ := List.findIdx?_eq_some_iff_getElem.1 first
    obtain ⟨channel, number, contains⟩ := fits.exists_channel inside
    refine ⟨offset, channel, ?_, ?_, number, ?_, built.patched.fixtureAt_eq_some member contains⟩
    · rw [List.getElem?_map, List.getElem?_eq_getElem inside, Option.map_some]
      simpa using own
    · intro earlier less
      rw [List.getElem?_map, List.getElem?_eq_getElem (Nat.lt_trans less inside), Option.map_some]
      simpa using before earlier less
    · rw [Fixture.channelIndex?_eq_some fits first, number]

/-- The patch of a universe, whatever a host has done to it since it was empty. -/
theorem patchwork_changeAll (number : UInt16) (changes : List Change) :
    ((empty number).changeAll changes).Patchwork := by
  have built := built_changeAll number changes
  generalize (empty number).changeAll changes = dmx at built
  have laid := built.laid
  have accepted := laid.accepted_iff
  refine ⟨laid.distinct, laid.number, ?_, ?_, ?_, ?_, ?_, ?_, ?_, ?_⟩
  · exact fun fixture member channel contains => (laid.fits fixture member).inside contains
  · exact laid.apart.imp fun apart channel both => apart ⟨channel, both⟩
  · exact fun channel id => built.fixtureAt_eq_some_iff
  · exact fun other changes => built.fixtureAt_congr (built_changeAll other changes)
  · intro fixture
    rw [accepted]
    constructor
    · intro admits
      refine ⟨admits.number, admits.fits.starts, admits.fits.ends, ?_, ?_⟩
      · rw [fixture?, List.find?_eq_none]
        exact fun other member => by simpa using admits.new other member
      · exact fun other member channel both => admits.free other member ⟨channel, both.2, both.1⟩
    · rintro ⟨number, starts, ends, absent, free⟩
      refine ⟨number, ⟨starts, ends⟩, ?_, ?_⟩
      · exact fun other member => by simpa using List.find?_eq_none.1 absent other member
      · rintro other member ⟨channel, contains, own⟩
        exact free other member channel ⟨own, contains⟩
  · intro fixture patched answer
    rw [change, answer]
    exact (laid.patch_eq_ok_iff.1 answer).2
  · intro fixture error answer
    rw [change, answer]
  · exact fun fixture member entry listed => built.indexed member listed

/-- A wash, a marker without channels behind the last address, and what is refused: an id that is taken,
a channel that is taken, another universe, and one channel too many. -/
def rigging : List Change :=
  let fixture (id : FixtureId) (layout : List ChannelType) (number address : UInt16) : Change :=
    .patch ⟨id, id, .ofLayout id layout, number, address⟩
  [fixture "wash" [.dimmer, .red, .dimmer] 1 510, fixture "marker" [] 1 513, fixture "wash" [.gobo] 1 1,
    fixture "spot" [.dimmer, .pan] 1 509, fixture "spot" [.pan] 2 1, fixture "spot" [.tilt] 1 513,
    .unpatch "spot", .write 511 255, .collect]

theorem patchwork_changeAll_rigging : ((empty 1).changeAll rigging).Patchwork ∧
    ((empty 1).changeAll rigging).fixtures.map Fixture.id = ["wash", "marker"] ∧
    ((empty 1).changeAll rigging).fixtureAt 511 = some "wash" ∧
    ((empty 1).changeAll rigging).fixtureAt 512 = none :=
  ⟨patchwork_changeAll 1 rigging, by decide +kernel, by decide +kernel, by decide +kernel⟩

end Universe

end LightingDesk
