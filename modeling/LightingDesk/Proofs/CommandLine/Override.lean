import LightingDesk.CommandLine
import LightingDesk.Proofs.Runner.Surroundings
import LightingDesk.Proofs.Show.Fixtures

/-!
The universe that the settings name. It takes the place of the number of a show, but every fixture has a
number of its own, and a universe takes no fixture with another number than its own. So a show with
fixtures is played only in the universe that it was made for: `CommandLine.play_overridden`.
-/

namespace LightingDesk

/-- What is tested first is the number of the fixture. -/
theorem Universe.patch_of_ne {dmx : Universe} {fixture : Fixture}
    (other : fixture.universeNumber ≠ dmx.number) : dmx.patch fixture =
      .error (.wrongUniverse fixture.id fixture.universeNumber dmx.number) := by
  rw [patch, if_pos (bne_iff_ne.2 other)]

namespace Show

/-- The show with another universe, which is not that of its fixtures. -/
def moved (content : Show) (number : UInt16) : Show := { content with universeNumber := number }

variable {content : Show} {dmx : Universe} {number : UInt16}

theorem universe?_moved (patched : content.universe? = .ok dmx)
    (stays : content.fixtures = [] ∨ number = content.universeNumber) :
    (content.moved number).universe? = .ok { dmx with number } := by
  obtain ⟨laid, rfl⟩ := universe?_eq_ok_iff.1 patched
  have other : (content.moved number).rigged = { content.rigged with number } := rfl
  rw [← other, universe?_eq_ok_iff]
  refine ⟨?_, rfl⟩
  rcases stays with bare | rfl
  · have empty : (content.moved number).rigged = .empty number := by
      rw [rigged, show (content.moved number).fixtures = [] from bare, Universe.adding_nil]
      rfl
    exact empty ▸ (Universe.Built.empty number).laid
  · exact laid

/-- The first fixture is refused, because it is on the universe that the show had. -/
theorem universe?_moved_eq_error (patched : content.universe? = .ok dmx) {first : Fixture}
    {rest : List Fixture} (fixtures : content.fixtures = first :: rest)
    (other : number ≠ content.universeNumber) : (content.moved number).universe? =
      .error (.wrongUniverse first.id content.universeNumber number) := by
  have laid := (universe?_eq_ok_iff.1 patched).1
  have listed : first ∈ content.fixtures := fixtures ▸ List.mem_cons_self
  have own : first.universeNumber = content.universeNumber := laid.number first listed
  have moved : (content.moved number).fixtures = first :: rest := fixtures
  have refused : (Universe.empty number).patch first =
      .error (.wrongUniverse first.id content.universeNumber number) := by
    rw [Universe.patch_of_ne (own ▸ other.symm), own]
    rfl
  rw [universe?, moved, Universe.patchAll]
  simp only [Show.moved, refused]

end Show

namespace CommandLine

/-- The universe in which a show is played. -/
def universeOf (settings : AppSettings) (content : Show) : UInt16 :=
  settings.output.universeNumber.getD content.universeNumber

/-- An act is played in a universe with the patch of this one, or it is not for the patch that it cannot be
played. -/
def PlaysIn (dmx : Universe) : Except Failure Playback → Prop
  | .error failure => ∀ refusal, failure ≠ .patch refusal
  | .ok playback => dmx.SamePatch playback.runner.session.stage.output

variable {settings : AppSettings} {content : Show} {dmx : Universe} {act : String}
  {limit : Option Nat} {clock : Clock} {seeding : Seeding}

/-- Players leave the patch as it is. -/
theorem samePatch_startAct {sender : Option (ArtNet.Sender ArtNet.Wire)}
    {result : Except RunnerError PlayerId} {runner : Runner ArtNet.Wire}
    (started : (Runner.create (Session.create dmx content.scenes settings.engine seeding) content.acts
      sender).startAct clock act = some (result, runner)) :
    dmx.SamePatch runner.session.stage.output := by
  have reachable : (Session.create dmx content.scenes settings.engine seeding).Reachable :=
    ⟨[], .create ..⟩
  exact (Runner.continues_startAct reachable started).surroundings.patch

theorem play_eq_error {refusal : PatchError} (found : (content.find? act).isSome = true)
    (refused : (content.moved (universeOf settings content)).universe? = .error refusal) :
    play clock seeding settings content act limit = .error (.patch refusal) := by
  have present : ((content.moved (universeOf settings content)).find? act).isNone = false := by
    simpa [Show.moved, Show.find?] using found
  unfold Show.moved universeOf at refused present
  unfold play
  simp only [present, refused, Except.mapError]
  rfl

theorem playsIn_of_patched
    (patched : (content.moved (universeOf settings content)).universe? = .ok dmx) :
    PlaysIn dmx (play clock seeding settings content act limit) := by
  unfold Show.moved universeOf at patched
  unfold play
  simp only [patched, Except.mapError]
  split
  next => rintro refusal ⟨⟩
  next =>
    change PlaysIn dmx (if settings.output.enabled = true then _ else _)
    -- with a sender or without one
    by_cases sends : settings.output.enabled = true
    · rw [if_pos sends]
      cases ArtNet.target settings.output.target with
      | error => rintro refusal ⟨⟩
      | ok target =>
        simp only [Except.map, Option.map_some, bind, Except.bind]
        split
        next => rintro refusal ⟨⟩
        next => rintro refusal ⟨⟩
        next started =>
          have same := samePatch_startAct started
          exact same
    · rw [if_neg sends]
      simp only [Option.map_none, bind, Except.bind]
      split
      next => rintro refusal ⟨⟩
      next => rintro refusal ⟨⟩
      next started =>
        have same := samePatch_startAct started
        exact same

/-- A show that can be patched is played in another universe than its own only if it has no fixtures: the
patch is then the same, but for the number. With fixtures, the first of them is refused. -/
theorem play_overridden (patched : content.universe? = .ok dmx)
    (found : (content.find? act).isSome = true) (clock : Clock) (seeding : Seeding)
    (settings : AppSettings) (limit : Option Nat) :
    dmx.fixtures = content.fixtures ∧
    (content.fixtures = [] ∨ universeOf settings content = content.universeNumber →
      PlaysIn { dmx with number := universeOf settings content }
        (play clock seeding settings content act limit)) ∧
    ∀ first rest, content.fixtures = first :: rest →
      universeOf settings content ≠ content.universeNumber →
      play clock seeding settings content act limit = .error
        (.patch (.wrongUniverse first.id content.universeNumber (universeOf settings content))) := by
  refine ⟨congrArg Universe.fixtures (Show.universe?_eq_ok_iff.1 patched).2, ?_, ?_⟩
  · intro stays
    exact playsIn_of_patched (Show.universe?_moved patched stays)
  · intro first rest fixtures other
    exact play_eq_error found (Show.universe?_moved_eq_error patched fixtures other)

/-- One dimmer on the first universe, and settings that name another one. -/
def solo : Show :=
  { Show.empty "solo" with
    acts := [.relay]
    fixtures := [⟨"front", "Front", .genericDimmer, 0, 1⟩] }

def elsewhere (number : UInt16) : AppSettings :=
  { AppSettings.standard with
    output := { OutputSettings.standard with universeNumber := some number } }

theorem play_overridden_solo : ∃ dmx, solo.universe? = .ok dmx ∧
    (solo.find? "relay").isSome = true ∧
    PlaysIn { dmx with number := 0 } (play (.still 0) (.splitmix 0) (elsewhere 0) solo "relay" none) ∧
    play (.still 0) (.splitmix 0) (elsewhere 3) solo "relay" none =
      .error (.patch (.wrongUniverse "front" 0 3)) := by
  have patched : solo.universe? = .ok solo.rigged := rfl
  have found : (solo.find? "relay").isSome = true := by decide
  have here := (play_overridden patched found (.still 0) (.splitmix 0) (elsewhere 0) none).2.1
    (.inr rfl)
  have there := (play_overridden patched found (.still 0) (.splitmix 0) (elsewhere 3) none).2.2
    _ [] rfl (by decide)
  exact ⟨_, patched, found, here, there⟩

/-- The settings do not move a show with its fixtures, they keep it from being played. -/
theorem refused_solo : ∃ dmx, solo.universe? = .ok dmx ∧
    (elsewhere 3).output.universeNumber = some 3 ∧ (solo.find? "relay").isSome = true ∧
    play (.still 0) (.splitmix 0) (elsewhere 3) solo "relay" (some 0) =
      .error (.patch (.wrongUniverse "front" 0 3)) := by
  have refused : (solo.moved (universeOf (elsewhere 3) solo)).universe? =
      .error (.wrongUniverse "front" 0 3) := rfl
  exact ⟨solo.rigged, rfl, rfl, by decide, play_eq_error (by decide) refused⟩

end CommandLine

end LightingDesk
