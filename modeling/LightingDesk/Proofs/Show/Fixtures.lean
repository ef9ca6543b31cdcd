import LightingDesk.Proofs.Dmx.Patch
import LightingDesk.Show

/-!
The fixtures of a show. They are patched one after the other, each of them only against those that came
before it, but they can all be patched exactly if they make a patch together (`Universe.Laid`), which does
not depend on their order: `Show.any_order`.
-/

namespace LightingDesk

namespace Universe

/-- The universe with some more fixtures, tested or not. -/
def adding (dmx : Universe) (fixtures : List Fixture) : Universe :=
  { dmx with fixtures := dmx.fixtures ++ fixtures }

variable {dmx other patched : Universe} {fixture : Fixture} {fixtures rest : List Fixture}

@[simp] theorem adding_nil (dmx : Universe) : dmx.adding [] = dmx := by
  rw [adding, List.append_nil]

theorem adding_adding (dmx : Universe) (fixture : Fixture) (rest : List Fixture) :
    (dmx.adding [fixture]).adding rest = dmx.adding (fixture :: rest) := by
  simp [adding]

/-- What is laid out together can be patched one after the other. -/
theorem Laid.admits (laid : (dmx.adding (fixture :: rest)).Laid) : dmx.Admits fixture := by
  have listed : fixture ∈ (dmx.adding (fixture :: rest)).fixtures :=
    List.mem_append_right _ List.mem_cons_self
  have ids := laid.distinct
  have apart := laid.apart
  rw [adding, List.map_append, List.nodup_append] at ids
  rw [adding, List.pairwise_append] at apart
  constructor
  case number => exact laid.number fixture listed
  case fits => exact laid.fits fixture listed
  case new =>
    intro other member
    exact ids.2.2 other.id (List.mem_map_of_mem member) fixture.id List.mem_cons_self
  case free =>
    intro other member
    exact apart.2.2 other member fixture List.mem_cons_self

/-- Fixtures can be patched if they make a patch together, and then they are all that is added. -/
theorem Laid.patchAll_eq_ok_iff (laid : dmx.Laid) : dmx.patchAll fixtures = .ok patched ↔
    (dmx.adding fixtures).Laid ∧ patched = dmx.adding fixtures := by
  induction fixtures generalizing dmx with
  | nil =>
    rw [patchAll, adding_nil, Except.ok.injEq]
    exact ⟨fun same => ⟨laid, same.symm⟩, fun both => both.2.symm⟩
  | cons fixture rest ih =>
    unfold patchAll
    cases answer : dmx.patch fixture with
    | error refusal =>
      refine ⟨fun failed => (nomatch failed), fun both => ?_⟩
      have accepted := laid.patch_eq_ok_iff.2 ⟨both.1.admits, rfl⟩
      rw [answer] at accepted
      cases accepted
    | ok middle =>
      obtain ⟨admits, same⟩ := laid.patch_eq_ok_iff.1 answer
      rw [← dmx.adding_adding fixture rest, same]
      exact ih (laid.patch admits)

theorem Built.patchAll (built : dmx.Built) (answer : dmx.patchAll fixtures = .ok patched) :
    patched.Built := by
  induction fixtures generalizing dmx with
  | nil => exact Except.ok.inj answer ▸ built
  | cons fixture rest ih =>
    unfold Universe.patchAll at answer
    split at answer
    next => cases answer
    next middle accepted => exact ih (built.patch fixture accepted) answer

/-- A patch stays one in any other order. -/
theorem Laid.perm (laid : dmx.Laid) (same : other.fixtures.Perm dmx.fixtures)
    (number : other.number = dmx.number) : other.Laid where
  number := fun fixture member => (laid.number fixture (same.mem_iff.1 member)).trans number.symm
  fits := fun fixture member => laid.fits fixture (same.mem_iff.1 member)
  distinct := (same.map Fixture.id).nodup_iff.2 laid.distinct
  apart := laid.apart.perm same.symm fun apart shares => apart shares.symm

/-- No two fixtures have one id, so it does not matter which is found first. -/
theorem Laid.fixture?_congr (laid : dmx.Laid) (laidOther : other.Laid)
    (same : other.fixtures.Perm dmx.fixtures) (id : FixtureId) : other.fixture? id = dmx.fixture? id := by
  ext fixture
  rw [laid.fixture?_eq_some_iff, laidOther.fixture?_eq_some_iff, same.mem_iff]

end Universe

namespace Show

variable {content : Show} {fixtures : List Fixture} {dmx : Universe}

/-- The universe of a show, before it is known whether the fixtures make a patch. -/
def rigged (content : Show) : Universe := (Universe.empty content.universeNumber).adding content.fixtures

theorem universe?_eq_ok_iff : content.universe? = .ok dmx ↔ content.rigged.Laid ∧ dmx = content.rigged :=
  (Universe.Built.empty content.universeNumber).laid.patchAll_eq_ok_iff

theorem built_of_universe? (answer : content.universe? = .ok dmx) : dmx.Built :=
  (Universe.Built.empty content.universeNumber).patchAll answer

theorem universe?_perm (content : Show) (same : fixtures.Perm content.fixtures)
    (answer : content.universe? = .ok dmx) :
    { content with fixtures }.universe? = .ok { dmx with fixtures } := by
  obtain ⟨laid, rfl⟩ := universe?_eq_ok_iff.1 answer
  have reordered : { content with fixtures }.rigged.fixtures.Perm content.rigged.fixtures := same
  exact universe?_eq_ok_iff.2 ⟨laid.perm reordered rfl, rfl⟩

/-- The order of its fixtures does not matter to a show. They can be patched in one order if they can in
another, and the two universes have the same fixtures, find the same one for each id, and find the same one
for each channel. -/
theorem any_order (content : Show) {fixtures : List Fixture} (same : fixtures.Perm content.fixtures) :
    ((∃ dmx, { content with fixtures }.universe? = .ok dmx) ↔ ∃ dmx, content.universe? = .ok dmx) ∧
    ∀ dmx other, content.universe? = .ok dmx → { content with fixtures }.universe? = .ok other →
      dmx.fixtures = content.fixtures ∧ other = { dmx with fixtures } ∧
      (∀ channel, other.fixtureAt channel = dmx.fixtureAt channel) ∧
      ∀ id, other.fixture? id = dmx.fixture? id := by
  constructor
  · constructor
    · intro succeeds
      obtain ⟨other, answer⟩ := succeeds
      exact ⟨_, { content with fixtures }.universe?_perm same.symm answer⟩
    · intro succeeds
      obtain ⟨dmx, answer⟩ := succeeds
      exact ⟨_, content.universe?_perm same answer⟩
  · intro dmx other answer answerOther
    obtain ⟨laid, rigged⟩ := universe?_eq_ok_iff.1 answer
    have listed : dmx.fixtures = content.fixtures := congrArg Universe.fixtures rigged
    have changed : other = { dmx with fixtures } :=
      Except.ok.inj (answerOther.symm.trans (content.universe?_perm same answer))
    have reordered : other.fixtures.Perm dmx.fixtures := by
      rw [changed, listed]
      exact same
    have built := built_of_universe? answer
    have builtOther := built_of_universe? answerOther
    exact ⟨listed, changed, built.fixtureAt_congr builtOther reordered,
      built.laid.fixture?_congr builtOther.laid reordered⟩

/-- A wash, a marker without channels in the middle of it, and a spot behind it. -/
def backstage : Show :=
  { empty "backstage" with
    fixtures := [⟨"wash", "Wash", .ofLayout "wash" [.red, .green, .blue], 0, 1⟩,
      ⟨"marker", "Marker", .ofLayout "marker" [], 0, 2⟩,
      ⟨"spot", "Spot", .ofLayout "spot" [.dimmer], 0, 4⟩] }

theorem any_order_backstage : ∃ dmx other, backstage.universe? = .ok dmx ∧
    { backstage with fixtures := backstage.fixtures.reverse }.universe? = .ok other ∧
    other.fixtures.map Fixture.id = ["spot", "marker", "wash"] ∧
    dmx.fixtureAt 3 = some "spot" ∧ ∀ channel, other.fixtureAt channel = dmx.fixtureAt channel := by
  have located : (backstage.universe?.toOption.map fun dmx => dmx.fixtureAt 3) = some (some "spot") := by
    decide +kernel
  cases answer : backstage.universe? with
  | error refusal => simp [answer, Except.toOption] at located
  | ok dmx =>
    rw [answer] at located
    have reversed := List.reverse_perm backstage.fixtures
    obtain ⟨other, answerOther⟩ := (any_order backstage reversed).1.2 ⟨dmx, answer⟩
    obtain ⟨-, changed, alike, -⟩ := (any_order backstage reversed).2 dmx other answer answerOther
    refine ⟨dmx, other, rfl, answerOther, ?_, Option.some.inj located, alike⟩
    rw [changed]
    rfl

end Show

end LightingDesk
