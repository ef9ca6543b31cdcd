import LightingDesk.Proofs.Playback.Course
import LightingDesk.Proofs.Playback.Moves
import LightingDesk.Proofs.Universe

/-!
What the output shows, as far as it can be told from the events. Nothing but the entering of a scene
node makes a player write, so over any number of requests the writes follow from the events, in their
order, whichever players they are of: `Session.Course.shows`.
-/

namespace LightingDesk

/-! ### What scene nodes ask for -/

def NodeKind.scene? : NodeKind → Option ScenePayload
  | .scene payload => some payload
  | _ => none

namespace ScenePayload

/-- The scene that is asked for. To ask for a scene without a name is to ask for none. -/
def scene? (payload : ScenePayload) (scenes : SceneLibrary) : Option Scene :=
  if payload.scene.isEmpty then none else scenes.find? payload.scene

/-- A scene is asked for by a name that none has. -/
def isMissing (payload : ScenePayload) (scenes : SceneLibrary) : Bool :=
  !payload.scene.isEmpty && (scenes.find? payload.scene).isNone

/-- The channel belongs to a muted fixture. -/
def mutes (payload : ScenePayload) (fixtures : List Fixture) (channel : UInt16) : Bool :=
  fixtures.any fun fixture =>
    payload.mutedFixtures.contains fixture.id && fixture.containsChannel channel

/-- The levels of the scene in the order in which it lists them, without those of muted fixtures. -/
def writes (payload : ScenePayload) (scenes : SceneLibrary) (fixtures : List Fixture) :
    List (UInt16 × UInt8) :=
  match payload.scene? scenes with
  | none => []
  | some scene => scene.levels.filter fun level => !payload.mutes fixtures level.1

end ScenePayload

namespace Event

/-- What the node asks for that is reported as entered, if it is a scene node of the player's act. -/
def asks? (loads : List (PlayerId × Act)) : Event → Option ScenePayload
  | .nodeEntered player _ node =>
      (loads.lookup player).bind fun act => (act.node? node).bind fun found => found.kind.scene?
  | _ => none

/-- The writes that an event goes with. -/
def writes (loads : List (PlayerId × Act)) (scenes : SceneLibrary) (fixtures : List Fixture)
    (event : Event) : List (UInt16 × UInt8) :=
  match event.asks? loads with
  | none => []
  | some payload => payload.writes scenes fixtures

/-- The warnings that an event goes with. -/
def complaints (loads : List (PlayerId × Act)) (scenes : SceneLibrary) (event : Event) : List Event :=
  match event, event.asks? loads with
  | .nodeEntered player act node, some payload =>
      if payload.isMissing scenes then [.warning player act (.missingScene node payload.scene)] else []
  | _, _ => []

def isMissingScene : Event → Bool
  | .warning _ _ (.missingScene ..) => true
  | _ => false

/-- All that a player does when it reports an event. -/
def deeds (loads : List (PlayerId × Act)) (scenes : SceneLibrary) (fixtures : List Fixture)
    (event : Event) : List Deed :=
  (event :: event.complaints loads scenes).map .event ++
    (event.writes loads scenes fixtures).map fun write => .write write.1 write.2

theorem IsAside.asks? {id : PlayerId} {act : ActId} {event : Event} (aside : event.IsAside id act)
    (loads : List (PlayerId × Act)) : event.asks? loads = none ∧ event.isMissingScene = false := by
  cases event with
  | nodeEntered => exact aside.elim
  | stopped => exact ⟨rfl, rfl⟩
  | warning player owner fault =>
    refine ⟨rfl, ?_⟩
    cases fault with
    | missingScene node scene => exact absurd rfl (aside.2.2 node scene)
    | _ => rfl

section Asks

variable {loads : List (PlayerId × Act)} {scenes : SceneLibrary} {fixtures : List Fixture} {event : Event}

theorem deeds_of_asks?_eq_none (none : event.asks? loads = none) :
    event.deeds loads scenes fixtures = [.event event] := by
  unfold deeds complaints writes
  rw [none]
  cases event <;> rfl

theorem complaints_missing {complaint : Event} (member : complaint ∈ event.complaints loads scenes) :
    complaint.isMissingScene = true ∧ complaint.asks? loads = none := by
  unfold complaints at member
  split at member
  next =>
    split at member
    · rw [List.mem_singleton.1 member]
      exact ⟨rfl, rfl⟩
    · cases member
  next => cases member

end Asks

end Event

/-! ### The writes of a player -/

theorem Deed.foldl_onOutput (dmx : Universe) (deeds : List Deed) : deeds.foldl Deed.onOutput dmx =
    (deeds.filterMap Deed.write?).foldl (fun dmx write => dmx.write write.1 write.2) dmx := by
  induction deeds generalizing dmx with
  | nil => rfl
  | cons deed rest ih =>
    cases deed with
    | event => exact ih dmx
    | write channel value => exact ih (dmx.write channel value)

theorem Stage.record_fixtures (stage : Stage TimerQueue Universe) (player : PlayerId)
    (deeds : List Deed) : (stage.record player deeds).output.fixtures = stage.output.fixtures := by
  have writes : (stage.record player deeds).output = _ := Deed.foldl_onOutput stage.output deeds
  rw [writes, Universe.writes_fixtures]

section Mutes

variable {stage : Stage TimerQueue Universe} {dmx : Universe}

theorem Stage.isMuted_eq (patched : dmx.Patched) (fixtures : stage.output.fixtures = dmx.fixtures)
    (payload : ScenePayload) (channel : UInt16) :
    stage.isMuted payload.mutedFixtures channel = payload.mutes dmx.fixtures channel := by
  have located : Output.fixtureAt stage.output channel = dmx.fixtureAt channel := by
    change stage.output.fixtureAt channel = _
    rw [Universe.fixtureAt, fixtures, ← Universe.fixtureAt]
  rw [isMuted, located, patched.any_fixtureAt, ← ScenePayload.mutes]
  cases empty : payload.mutedFixtures.isEmpty with
  | false => rfl
  | true =>
    have none : payload.mutedFixtures.ids = [] := List.isEmpty_iff.1 empty
    simp [ScenePayload.mutes, FixtureSet.contains, none]

theorem Stage.shown_eq (patched : dmx.Patched) (fixtures : stage.output.fixtures = dmx.fixtures)
    (player : PlayerId) (payload : ScenePayload) (levels : List (UInt16 × UInt8)) :
    Stage.shown player payload.mutedFixtures levels stage =
      (levels.filter fun level => !payload.mutes dmx.fixtures level.1).map
        fun write => .write write.1 write.2 := by
  induction levels generalizing stage with
  | nil => rfl
  | cons level rest ih =>
    rw [Stage.shown, Stage.isMuted_eq patched fixtures]
    cases muted : payload.mutes dmx.fixtures level.1 with
    | true => rw [if_pos rfl, ih fixtures, List.filter_cons_of_neg (by simp [muted])]
    | false =>
      have after : (stage.write player level.1 level.2).output.fixtures = dmx.fixtures :=
        (Universe.write_fixtures ..).trans fixtures
      rw [if_neg Bool.false_ne_true, ih after, List.filter_cons_of_pos (by simp [muted]),
        List.map_cons]

end Mutes

namespace Player

variable {loads : List (PlayerId × Act)} {player : Player} {stage : Stage TimerQueue Universe}
  {dmx : Universe} {deeds : List Deed}

theorem entry_eq (known : loads.lookup player.id = some player.act) (patched : dmx.Patched)
    (fixtures : stage.output.fixtures = dmx.fixtures) {id : NodeId} {node : ActNode}
    (found : player.act.node? id = some node) :
    player.entry stage id node.kind =
      (Event.nodeEntered player.id player.act.id id).deeds loads stage.scenes dmx.fixtures := by
  have asks : (Event.nodeEntered player.id player.act.id id).asks? loads = node.kind.scene? := by
    rw [Event.asks?, known, Option.bind_some, found, Option.bind_some]
  cases kind : node.kind with
  | scene payload =>
    have asks : _ = some payload := asks.trans (by rw [kind]; rfl)
    unfold Event.deeds Event.complaints Event.writes
    simp only [asks]
    rw [entry, List.map_cons, List.cons_append]
    refine congrArg _ ?_
    unfold scenery ScenePayload.isMissing ScenePayload.writes ScenePayload.scene?
    cases payload.scene.isEmpty with
    | true => rfl
    | false =>
      simp only [Bool.false_eq_true, if_false, Bool.not_false, Bool.true_and]
      cases stage.scenes.find? payload.scene with
      | none => rfl
      | some scene => exact Stage.shown_eq patched fixtures player.id payload scene.levels
  | _ =>
    rw [kind] at asks
    rw [Event.deeds_of_asks?_eq_none asks]
    rfl

/-- What players do is told by their events. -/
theorem Plays.told {scenes : SceneLibrary} (known : loads.lookup player.id = some player.act)
    (patched : dmx.Patched) (fixtures : stage.output.fixtures = dmx.fixtures)
    (library : stage.scenes = scenes) (plays : player.Plays stage deeds) :
    ∃ told : List Event, (∀ event ∈ told, event.isMissingScene = false) ∧
      deeds = told.flatMap (Event.deeds loads scenes dmx.fixtures) := by
  induction plays with
  | nil => exact ⟨[], by simp, rfl⟩
  | @step stage step deeds more does rest ih =>
    have first : ∃ told : List Event, (∀ event ∈ told, event.isMissingScene = false) ∧
        deeds = told.flatMap (Event.deeds loads scenes dmx.fixtures) := by
      cases does with
      | @enters id node found =>
        refine ⟨[.nodeEntered player.id player.act.id id], by simp [Event.isMissingScene], ?_⟩
        rw [List.flatMap_singleton, ← library]
        exact entry_eq known patched fixtures found
      | tells events aside =>
        refine ⟨events, fun event member => ((aside event member).asks? loads).2, ?_⟩
        rw [List.map_eq_flatMap]
        exact List.flatMap_congr fun event member =>
          (Event.deeds_of_asks?_eq_none ((aside event member).asks? loads).1).symm
    obtain ⟨told, known, rfl⟩ := first
    obtain ⟨others, still, rfl⟩ := ih ((stage.record_fixtures ..).trans fixtures) library
    refine ⟨told ++ others, ?_, List.flatMap_append.symm⟩
    intro event member
    exact (List.mem_append.1 member).elim (known event) (still event)

end Player

namespace Event

variable {loads : List (PlayerId × Act)} {scenes : SceneLibrary} {fixtures : List Fixture}

theorem filterMap_deeds (loads : List (PlayerId × Act)) (scenes : SceneLibrary)
    (fixtures : List Fixture) (told : List Event) :
    (told.flatMap (Event.deeds loads scenes fixtures)).filterMap Deed.event? =
        told.flatMap (fun event => event :: event.complaints loads scenes) ∧
      (told.flatMap (Event.deeds loads scenes fixtures)).filterMap Deed.write? =
        told.flatMap (Event.writes loads scenes fixtures) := by
  constructor
  · rw [List.filterMap_flatMap]
    refine List.flatMap_congr fun event _ => ?_
    rw [deeds, List.filterMap_append, List.filterMap_map, List.filterMap_map]
    simp [Deed.event?, Function.comp_def]
  · rw [List.filterMap_flatMap]
    refine List.flatMap_congr fun event _ => ?_
    rw [deeds, List.filterMap_append, List.filterMap_map, List.filterMap_map]
    simp [Deed.write?, Function.comp_def]

end Event

/-! ### Over many requests -/

/-- Since an earlier state of the stage, players have reported these events, and warned of missing scenes
and written what goes with them. -/
structure Stage.Told (loads : List (PlayerId × Act)) (before stage : Stage TimerQueue Universe)
    (told : List Event) : Prop where
  proper : ∀ event ∈ told, event.isMissingScene = false
  scenes : stage.scenes = before.scenes
  fixtures : stage.output.fixtures = before.output.fixtures
  events : stage.trace.toList.filterMap TraceEntry.event? =
    before.trace.toList.filterMap TraceEntry.event? ++
      told.flatMap fun event => event :: event.complaints loads before.scenes
  writes : stage.trace.toList.filterMap TraceEntry.write? =
    before.trace.toList.filterMap TraceEntry.write? ++
      told.flatMap (Event.writes loads before.scenes before.output.fixtures)
  levels : ∀ channel, channel.toNat < Universe.channelCount → stage.output.level? channel =
    (Universe.latest? (told.flatMap (Event.writes loads before.scenes before.output.fixtures))
      channel).or (before.output.level? channel)

namespace Stage.Told

variable {loads : List (PlayerId × Act)} {before stage shown : Stage TimerQueue Universe}
  {told : List Event} {player : Player} {deeds : List Deed}

theorem refl (loads : List (PlayerId × Act)) (stage : Stage TimerQueue Universe) :
    Told loads stage stage [] :=
  ⟨by simp, rfl, rfl, by simp, by simp, fun _ _ => rfl⟩

theorem congr (since : Told loads before stage told) (scenes : shown.scenes = stage.scenes)
    (fixtures : shown.output.fixtures = stage.output.fixtures)
    (levels : shown.output.levels = stage.output.levels) (trace : shown.trace = stage.trace) :
    Told loads before shown told where
  proper := since.proper
  scenes := scenes.trans since.scenes
  fixtures := fixtures.trans since.fixtures
  events := trace ▸ since.events
  writes := trace ▸ since.writes
  levels := fun channel inside => by
    rw [Universe.level?, levels]
    exact since.levels channel inside

/-- What a call adds. -/
theorem conducts (since : Told loads before stage told) (patched : before.output.Patched)
    (known : loads.lookup player.id = some player.act) (conducts : player.Conducts stage shown deeds) :
    ∃ told, Told loads before shown told := by
  obtain ⟨more, proper, rfl⟩ :=
    conducts.plays.told known patched since.fixtures since.scenes
  obtain ⟨events, writes⟩ := Event.filterMap_deeds loads before.scenes before.output.fixtures more
  have records := conducts.records
  generalize more.flatMap (Event.deeds loads before.scenes before.output.fixtures) = deeds at *
  have trace : shown.trace.toList =
      stage.trace.toList ++ deeds.map (TraceEntry.mk stage.now player.id) := by
    rw [records]
    exact stage.record_trace player.id deeds
  have output : shown.output =
      (deeds.filterMap Deed.write?).foldl (fun dmx write => dmx.write write.1 write.2) stage.output := by
    rw [records]
    exact Deed.foldl_onOutput stage.output deeds
  refine ⟨told ++ more, ?_, ?_, ?_, ?_, ?_, ?_⟩
  · intro event member
    exact (List.mem_append.1 member).elim (since.proper event) (proper event)
  · rw [records]
    exact since.scenes
  · rw [output, Universe.writes_fixtures]
    exact since.fixtures
  · rw [trace, List.filterMap_append, since.events, List.flatMap_append, ← events, List.append_assoc,
      List.filterMap_map]
    rfl
  · rw [trace, List.filterMap_append, since.writes, List.flatMap_append, ← writes, List.append_assoc,
      List.filterMap_map]
    rfl
  · intro channel inside
    rw [output, Universe.level?_writes _ _ inside, since.levels channel inside, writes,
      List.flatMap_append, Universe.latest?_append, Option.or_assoc]

end Stage.Told

namespace Session

/-- A session as it has become from an earlier state, and the requests in between, each with the session
that it was made of. -/
inductive Onward {ω : Type} [Output ω] (session : Session ω) :
    Session ω → List (Session ω × Request ω) → Prop where
  | here : Onward session session []
  | perform {middle recent later} (before : Onward session middle recent) (request : Request ω)
      (answer : middle.perform request = some later) :
      Onward session later (recent ++ [(middle, request)])

theorem Course.onward {ω : Type} [Output ω] {session later : Session ω}
    {past recent : List (Session ω × Request ω)} (course : Course session past)
    (onward : Onward session later recent) : Course later (past ++ recent) := by
  induction onward with
  | here => exact past.append_nil.symm ▸ course
  | perform _ request answer ih => exact List.append_assoc .. ▸ ih.perform request answer

/-- The host changes neither the scenes nor the patch, and sets no levels. -/
def Spares (session : Session Universe) : Request Universe → Prop
  | .changeScenes change => change session.stage.scenes = session.stage.scenes
  | .changeOutput change =>
      (change session.stage.output).fixtures = session.stage.output.fixtures ∧
        (change session.stage.output).levels = session.stage.output.levels
  | _ => True

/-- What a session has come to since an earlier state of it, whoever was loaded in the meantime. -/
structure Follows (loads : List (PlayerId × Act)) (before session : Session Universe) : Prop where
  lives : ∃ log, Lives session log
  plays : ∀ id player, session.player? id = some player → loads.lookup id = some player.act
  told : ∃ told, Stage.Told loads before.stage session.stage told

namespace Follows

open Relation

variable {loads : List (PlayerId × Act)} {before session later : Session Universe}

theorem moves (follows : Follows loads before session) (patched : before.stage.output.Patched)
    (moves : session.Moves later) : Follows loads before later := by
  obtain ⟨log, lives⟩ := follows.lives
  obtain ⟨told, since⟩ := follows.told
  have alive := lives.moves moves
  have plays := lives.acts_of_moves (P := fun id act => loads.lookup id = some act)
    follows.plays moves
  cases moves with
  | remove => exact ⟨alive, plays, told, since⟩
  | clock clock => exact ⟨alive, plays, told, since.congr rfl rfl rfl rfl⟩
  | @call id player reached shown call found answer =>
    have known := follows.plays id player found
    obtain ⟨deeds, conducts⟩ := lives.conducts found answer
    obtain rfl := id_of_player? found
    exact ⟨alive, plays, since.conducts patched known conducts⟩

theorem performed {request : Request Universe} {past : List (Session Universe × Request Universe)}
    (follows : Follows loads before session) (patched : before.stage.output.Patched)
    (course : Course session past) (known : ∀ entry ∈ loaded (past ++ [(session, request)]),
      loads.lookup entry.1 = some entry.2) (spares : session.Spares request)
    (answer : session.perform request = some later) : Follows loads before later := by
  have boarded : Follows loads before (session.boarded request) := by
    obtain ⟨log, lives⟩ := follows.lives
    have plays (id : PlayerId) (player : Player)
        (found : (session.boarded request).player? id = some player) :
        loads.lookup id = some player.act := known _ (course.boarded request found)
    cases request with
    | load act | play act => exact ⟨⟨log, lives.load act⟩, plays, follows.told⟩
    | _ => exact follows
  refine perform_rule (fun follows => follows.moves patched) (fun change => ?_) boarded answer
  obtain ⟨⟨log, lives⟩, plays, told, since⟩ := follows
  cases request with
  | changeSignals | changeBus =>
    obtain rfl := Option.some.inj answer
    exact ⟨⟨log, lives.restage _⟩, plays, told, since.congr rfl rfl rfl rfl⟩
  | changeScenes =>
    obtain rfl := Option.some.inj answer
    exact ⟨⟨log, lives.restage _⟩, plays, told, since.congr spares rfl rfl rfl⟩
  | changeOutput =>
    obtain rfl := Option.some.inj answer
    exact ⟨⟨log, lives.restage _⟩, plays, told, since.congr rfl spares.1 spares.2 rfl⟩
  | _ => exact change.elim

theorem onward {loads : List (PlayerId × Act)} {before later : Session Universe}
    {past recent : List (Session Universe × Request Universe)} (course : Course before past)
    (patched : before.stage.output.Patched) (onward : Onward before later recent)
    (spares : ∀ asked ∈ recent, asked.1.Spares asked.2)
    (known : ∀ entry ∈ loaded (past ++ recent), loads.lookup entry.1 = some entry.2) :
    Follows loads before later := by
  induction onward with
  | here =>
    obtain ⟨log, run⟩ := course.run
    rw [List.append_nil] at known
    exact ⟨⟨log, Lives.kept.run run⟩, fun id player found =>
      known _ (course.spoken.plays id player found), [], .refl _ _⟩
  | perform before request answer ih =>
    rw [← List.append_assoc] at known
    have follows := ih (fun asked member => spares asked (List.mem_append_left _ member))
      fun entry member => known entry (loaded_append .. ▸ List.mem_append_left _ member)
    exact follows.performed patched (course.onward before) known
      (spares _ (List.mem_append_right _ (List.mem_singleton_self _))) answer

end Follows

/-- What players have reported and written since an earlier state of a session. -/
structure Shows (loads : List (PlayerId × Act)) (before session : Session Universe)
    (events : List Event) (writes : List (UInt16 × UInt8)) : Prop where
  reported : session.events = before.events ++ events
  written : session.writes = before.writes ++ writes
  shown : writes =
    events.flatMap (Event.writes loads before.stage.scenes before.stage.output.fixtures)
  /-- Missing scenes are warned of directly after the node that asks for them, once, and nowhere else. -/
  warned : events = (events.filter fun event => !event.isMissingScene).flatMap
    fun event => event :: event.complaints loads before.stage.scenes
  levels : ∀ channel, channel.toNat < Universe.channelCount → session.stage.output.level? channel =
    (Universe.latest? writes channel).or (before.stage.output.level? channel)
  beyond : ∀ write ∈ writes, Universe.channelCount ≤ write.1.toNat →
    ∀ dmx : Universe, dmx.write write.1 write.2 = dmx
  /-- A fixture that is muted by every scene that is played is left as it is. -/
  spared : ∀ fixture ∈ before.stage.output.fixtures,
    (∀ event ∈ events, ∀ payload, event.asks? loads = some payload →
      (payload.scene? before.stage.scenes).isSome = true →
      payload.mutedFixtures.contains fixture.id = true) →
    ∀ channel, fixture.containsChannel channel = true → channel ∉ writes.map Prod.fst ∧
      (channel.toNat < Universe.channelCount →
        session.stage.output.level? channel = before.stage.output.level? channel)

section Shows

variable {loads : List (PlayerId × Act)} {scenes : SceneLibrary} {fixtures : List Fixture}
  {told : List Event}

theorem filter_reported (proper : ∀ event ∈ told, event.isMissingScene = false) :
    (told.flatMap fun event => event :: event.complaints loads scenes).filter
      (fun event => !event.isMissingScene) = told := by
  rw [List.filter_flatMap]
  refine (List.flatMap_congr fun event member => ?_).trans told.flatMap_singleton'
  rw [List.filter_cons_of_pos (by simp [proper event member]), List.filter_eq_nil_iff.2]
  intro complaint listed
  simp [(Event.complaints_missing listed).1]

theorem flatMap_reported : (told.flatMap fun event => event :: event.complaints loads scenes).flatMap
      (Event.writes loads scenes fixtures) = told.flatMap (Event.writes loads scenes fixtures) := by
  rw [List.flatMap_assoc]
  refine List.flatMap_congr fun event _ => ?_
  rw [List.flatMap_cons, List.flatMap_eq_nil_iff.2, List.append_nil]
  intro complaint listed
  rw [Event.writes, (Event.complaints_missing listed).2]

theorem not_mem_writes {fixture : Fixture} (listed : fixture ∈ fixtures) {events : List Event}
    (muted : ∀ event ∈ events, ∀ payload, event.asks? loads = some payload →
      (payload.scene? scenes).isSome = true → payload.mutedFixtures.contains fixture.id = true)
    {channel : UInt16} (contains : fixture.containsChannel channel = true) :
    channel ∉ (events.flatMap (Event.writes loads scenes fixtures)).map Prod.fst := by
  intro touched
  obtain ⟨write, member, rfl⟩ := List.mem_map.1 touched
  obtain ⟨event, reported, written⟩ := List.mem_flatMap.1 member
  unfold Event.writes at written
  split at written
  next => cases written
  next payload asks =>
    unfold ScenePayload.writes at written
    split at written
    next => cases written
    next scene found =>
      obtain ⟨-, audible⟩ := List.mem_filter.1 written
      have mutes : payload.mutes fixtures write.1 = true := List.any_eq_true.2
        ⟨fixture, listed, by simp [contains, muted event reported payload asks (by simp [found])]⟩
      simp [mutes] at audible

end Shows

theorem shows_of_told {loads : List (PlayerId × Act)} {before session : Session Universe}
    {told : List Event} (since : Stage.Told loads before.stage session.stage told) :
    Shows loads before session
      (told.flatMap fun event => event :: event.complaints loads before.stage.scenes)
      (told.flatMap (Event.writes loads before.stage.scenes before.stage.output.fixtures)) where
  reported := since.events
  written := since.writes
  shown := flatMap_reported.symm
  warned := by rw [filter_reported since.proper]
  levels := since.levels
  beyond := fun write _ outside dmx => dmx.write_outside outside write.2
  spared := by
    intro fixture listed muted channel contains
    have untouched := not_mem_writes listed muted contains
    rw [flatMap_reported] at untouched
    refine ⟨untouched, fun inside => ?_⟩
    rw [since.levels channel inside, Universe.latest?_eq_none untouched, Option.none_or]

theorem lookup_of_mem {loads : List (PlayerId × Act)} (once : (loads.map Prod.fst).Nodup)
    {entry : PlayerId × Act} (member : entry ∈ loads) : loads.lookup entry.1 = some entry.2 := by
  obtain ⟨earlier, later, rfl⟩ := List.append_of_mem member
  refine List.lookup_eq_some_iff.2 ⟨earlier, later, rfl, fun other listed => ?_⟩
  rw [List.map_append, List.nodup_append] at once
  rw [bne_iff_ne]
  exact (once.2.2 other.1 (List.mem_map_of_mem listed) entry.1 (by simp)).symm

/-- What players write follows from what they report, as long as the host leaves the scenes, the patch and
the levels alone: the nodes that are reported as entered have put their scenes on the output, in this
order, and nothing else has been written. -/
theorem Course.shows {session later : Session Universe}
    {past recent : List (Session Universe × Request Universe)} (course : Course session past)
    (built : session.stage.output.Built) (onward : Onward session later recent)
    (spares : ∀ asked ∈ recent, asked.1.Spares asked.2) :
    ∃ events writes, Shows (loaded (past ++ recent)) session later events writes := by
  have once := (course.onward onward).spoken.once
  obtain ⟨told, since⟩ := (Follows.onward course built.patched onward spares
    fun entry => lookup_of_mem once).told
  exact ⟨_, _, shows_of_told since⟩

end Session

/-- A scene without the wash, and one that is not there. -/
def Act.matinee : Act :=
  { Act.empty ⟨"act"⟩ "matinee" .epoch with
    nodes := [⟨⟨"first"⟩, "first", .scene ((ScenePayload.ofScene "Warm").muting "wash"), .origin⟩,
      ⟨⟨"second"⟩, "second", .scene (.ofScene "Cold"), .origin⟩]
    connections := [⟨⟨"edge"⟩, ⟨"first"⟩, ⟨"second"⟩, .default, none, none⟩] }

/-- A universe with a wash on its first three channels. -/
def Universe.washed : Universe :=
  { Universe.empty 1 with fixtures := [⟨"wash", "wash", .rgbPar, 1, 1⟩] }

theorem Universe.washed_built : Universe.washed.Built :=
  .patch (.empty 1) ⟨"wash", "wash", .rgbPar, 1, 1⟩ (by rfl)

theorem Session.Course.shows_matinee :
    ∃ before later : Session Universe, ∃ recent events, Onward before later recent ∧
      Shows (loaded recent) before later events [(3, 9)] ∧
      events.map Event.isMissingScene = [false, false, true, false] := by
  let before := Session.create Universe.washed ⟨[⟨"Warm", [(0, 255), (3, 9)]⟩]⟩ ⟨8, none, 8⟩ (.splitmix 0)
  have played : (before.perform (.play .matinee)).map (fun later =>
      (later.writes, later.events.map Event.isMissingScene)) =
        some ([(3, 9)], [false, false, true, false]) := by decide
  obtain ⟨later, answer, stands⟩ := Option.map_eq_some_iff.1 played
  obtain ⟨written, reported⟩ := Prod.mk.inj stands
  have onward := Onward.here.perform _ answer
  obtain ⟨events, writes, shows⟩ := (Course.create ..).shows Universe.washed_built onward
    (by simp [Spares])
  obtain rfl : writes = [(3, 9)] := shows.written.symm.trans written
  obtain rfl : later.events = events := shows.reported
  exact ⟨before, later, _, _, onward, shows, reported⟩

end LightingDesk
