import LightingDesk.Proofs.Playback.Moves
import LightingDesk.Proofs.Playback.Sight

/-!
Players of one session keep out of each other's way. Two sessions are asked for the same, apart from what
is asked of other players; then a player that reads no levels comes out the same in both, with all that it
has done and when: `Session.Apart.undisturbed`.
-/

namespace LightingDesk

/-- The request starts, stops or unloads one player, and not this one. -/
def Request.IsElsewhere {ω : Type} (id : PlayerId) : Request ω → Prop
  | .start player | .stop player | .unload player => player ≠ id
  | _ => False

/-- What is asked for does not depend on deadlines, nor on the levels of the output. -/
def Request.IsCommon : Request Universe → Prop
  | .runUntilIdle _ => False
  | .changeOutput change => ∀ dmx other, dmx.SamePatch other → (change dmx).SamePatch (change other)
  | _ => True

namespace Session

/-- Two sessions with the same random seed, of which the same has been asked, apart from what was asked of
other players than this one. The player, once it is loaded, plays the given act. -/
inductive Apart (id : PlayerId) (act : Act) : Session Universe → Session Universe → Prop where
  | create (dmx : Universe) (scenes : SceneLibrary) (settings : EngineSettings) (seed : UInt64)
      (seeding : Seeding) :
      Apart id act (.create dmx scenes { settings with randomSeed := some seed } seeding)
        (.create dmx scenes { settings with randomSeed := some seed } seeding)
  | both {session other later reached} (before : Apart id act session other)
      (request : Request Universe) (common : request.IsCommon)
      (own : ∀ loaded, (id, loaded) ∈ session.loads request → loaded = act)
      (answer : session.perform request = some later)
      (answerOther : other.perform request = some reached) : Apart id act later reached
  | here {session other later} (before : Apart id act session other) (request : Request Universe)
      (elsewhere : request.IsElsewhere id) (answer : session.perform request = some later) :
      Apart id act later other
  | there {session other reached} (before : Apart id act session other) (request : Request Universe)
      (elsewhere : request.IsElsewhere id) (answer : other.perform request = some reached) :
      Apart id act session reached

/-- The sessions are the same to a player, and it is the same time in both. -/
structure InStep (id : PlayerId) (session other : Session Universe) : Prop
    extends Matches id session other where
  now : other.now = session.now

namespace InStep

variable {id named : PlayerId} {session other third later reached : Session Universe}
  {log logOther : List (Moment TimerQueue Universe)}

theorem symm (same : InStep id session other) : InStep id other session :=
  ⟨same.toMatches.symm, same.now.symm⟩

theorem trans (same : InStep id session other) (more : InStep id other third) :
    InStep id session third :=
  ⟨same.toMatches.trans more.toMatches, more.now.trans same.now⟩

theorem refl (id : PlayerId) (session : Session Universe) : InStep id session session :=
  ⟨.refl id session, rfl⟩

/-! ### Other players -/

theorem call_other {player moved : Player} {shown : Stage TimerQueue Universe} (call : Call)
    (lives : Lives session log) (found : session.player? named = some player) (foreign : named ≠ id)
    (answer : player.answer session.stage call = some (moved, shown)) :
    InStep id session (session.replace moved shown) := by
  have responds := lives.responds found answer
  obtain ⟨deeds, conducts⟩ := lives.conducts found answer
  obtain rfl := id_of_player? found
  exact ⟨.call_other found responds.id foreign conducts, conducts.now⟩

theorem start_other {result : Except SessionError Unit} (lives : Lives session log)
    (foreign : named ≠ id) (answer : session.start named = some (result, later)) :
    InStep id session later := by
  rcases start_cases answer with
    ⟨-, -, rfl⟩ | ⟨player, outcome, moved, shown, found, taken, -, rfl⟩
  · exact .refl id _
  · exact call_other .start lives found foreign (Player.answer_start taken)

theorem stop_other (lives : Lives session log) (foreign : named ≠ id) :
    InStep id session (session.stop named).2 := by
  unfold Session.stop
  split
  next => exact .refl id session
  next player found => exact call_other .stop lives found foreign rfl

theorem remove (same : InStep id session other) (named : PlayerId) :
    InStep id { session with players := session.players.filter fun player => player.id != named }
      { other with players := other.players.filter fun player => player.id != named } where
  toSetting := ⟨same.settings, same.seeding, same.nextPlayer, same.scenes, same.signals, same.patch⟩
  entries := same.entries
  now := same.now
  player := by
    rw [aspect?, aspect?, player?_remove, player?_remove]
    split
    · rfl
    · exact same.player

theorem remove_other (session : Session Universe) (foreign : named ≠ id) :
    InStep id session
      { session with players := session.players.filter fun player => player.id != named } where
  toSetting := ⟨rfl, rfl, rfl, rfl, rfl, .refl _⟩
  entries := rfl
  now := rfl
  player := by rw [aspect?, player?_remove, if_neg foreign.symm, ← aspect?]

theorem unload_eq (session : Session Universe) (named : PlayerId) :
    (session.unload named).2 = { (session.stop named).2 with
      players := (session.stop named).2.players.filter fun player => player.id != named } := by
  unfold Session.unload
  cases found : session.player? named with
  | none =>
    have all : session.players.filter (fun player => player.id != named) = session.players :=
      List.filter_eq_self.2 fun player member => by simpa using player?_eq_none.1 found player member
    simp only [Session.stop, found, all]
  | some player => rfl

theorem elsewhere {request : Request Universe} (lives : Lives session log)
    (elsewhere : request.IsElsewhere id) (answer : session.perform request = some later) :
    InStep id session later := by
  cases request with
  | start named =>
    obtain ⟨result, started⟩ := exists_start answer
    exact start_other lives elsewhere started
  | stop named => exact Option.some.inj answer ▸ stop_other lives elsewhere
  | unload named =>
    obtain rfl := Option.some.inj answer
    rw [unload_eq]
    exact (stop_other lives elsewhere).trans (remove_other _ elsewhere)
  | _ => exact elsewhere.elim

theorem stops_other (lives : Lives session log) {ids : List PlayerId} (foreign : id ∉ ids) :
    InStep id session (ids.foldl (fun session named => (session.stop named).2) session) ∧
      Lives (ids.foldl (fun session named => (session.stop named).2) session) log := by
  induction ids generalizing session with
  | nil => exact ⟨.refl id session, lives⟩
  | cons named rest ih =>
    rw [List.mem_cons, not_or] at foreign
    obtain ⟨inStep, livesRest⟩ := ih (Lives.kept.lasting.stopped lives named) foreign.2
    exact ⟨(stop_other lives (Ne.symm foreign.1)).trans inStep, livesRest⟩

/-! ### Requests to both sessions -/

section Common

variable (same : InStep id session other) (lives : Lives session log)
  (livesOther : Lives other logOther)
  (blind : ∀ player, session.player? id = some player → ¬player.act.ReadsLevels)
include same lives livesOther blind

theorem call {player moved later reached : Player} {shown revealed : Stage TimerQueue Universe}
    (call : Call) (found : session.player? id = some player) (foundOther : other.player? id = some moved)
    (answer : player.answer session.stage call = some (later, shown))
    (answerOther : moved.answer other.stage call = some (reached, revealed)) :
    InStep id (session.replace later shown) (other.replace reached revealed) := by
  obtain ⟨act, life⟩ := lives.life found
  obtain ⟨actOther, lifeOther⟩ := livesOther.life foundOther
  obtain ⟨calls, now⟩ := same.toMatches.call same.now found foundOther (blind player found)
    (fun idle => (life.chronicle.idles idle).1) (fun idle => (lifeOther.chronicle.idles idle).1)
    (lives.responds found answer).id answer answerOther
  exact ⟨calls, now⟩

omit lives livesOther blind in
theorem found_or : (session.player? id = none ∧ other.player? id = none) ∨
    ∃ player moved, session.player? id = some player ∧ other.player? id = some moved := by
  have players := same.player
  rw [aspect?, aspect?] at players
  cases found : session.player? id with
  | none =>
    rw [found, Option.map_none, Option.map_eq_none_iff] at players
    exact .inl ⟨rfl, players⟩
  | some player =>
    rw [found, Option.map_some, Option.map_eq_some_iff] at players
    obtain ⟨moved, foundOther, -⟩ := players
    exact .inr ⟨player, moved, rfl, foundOther⟩

theorem start {result resultOther : Except SessionError Unit}
    (answer : session.start named = some (result, later))
    (answerOther : other.start named = some (resultOther, reached)) : InStep id later reached := by
  by_cases own : named = id
  · subst own
    unfold Session.start at answer answerOther
    rcases same.found_or with ⟨absent, absentOther⟩ | ⟨player, moved, found, foundOther⟩
    · simp only [absent, Option.some.injEq, Prod.mk.injEq] at answer
      simp only [absentOther, Option.some.injEq, Prod.mk.injEq] at answerOther
      exact answer.2 ▸ answerOther.2 ▸ same
    · simp only [found, Option.map_eq_some_iff, Prod.mk.injEq] at answer
      simp only [foundOther, Option.map_eq_some_iff, Prod.mk.injEq] at answerOther
      obtain ⟨⟨_, turned, shown⟩, taken, -, rfl⟩ := answer
      obtain ⟨⟨_, turnedOther, revealed⟩, takenOther, -, rfl⟩ := answerOther
      exact same.call lives livesOther blind .start found foundOther (Player.answer_start taken)
        (Player.answer_start takenOther)
  · exact (start_other lives own answer).symm.trans (same.trans (start_other livesOther own answerOther))

theorem stop (named : PlayerId) : InStep id (session.stop named).2 (other.stop named).2 := by
  by_cases own : named = id
  · subst own
    unfold Session.stop
    rcases same.found_or with ⟨absent, absentOther⟩ | ⟨player, moved, found, foundOther⟩
    · rw [absent, absentOther]
      exact same
    · rw [found, foundOther]
      exact same.call lives livesOther blind .stop found foundOther rfl rfl
  · exact (stop_other lives own).symm.trans (same.trans (stop_other livesOther own))

omit same livesOther in
/-- To stop all players is to stop this one, as far as it is concerned. -/
theorem stop_stopAll : InStep id (session.stop id).2 session.stopAll := by
  rw [Session.stopAll]
  by_cases listed : id ∈ session.players.map Player.id
  · obtain ⟨earlier, later, split⟩ := List.append_of_mem listed
    have once := lives.distinct
    rw [split, List.nodup_append, List.nodup_cons] at once
    have foreign : id ∉ earlier := fun member => once.2.2 id member id List.mem_cons_self rfl
    obtain ⟨before, livesBefore⟩ := stops_other lives foreign
    have stopped := before.stop lives livesBefore blind id
    obtain ⟨after, -⟩ := stops_other (Lives.kept.lasting.stopped livesBefore id) once.2.1.1
    rw [split, List.foldl_append, List.foldl_cons]
    exact stopped.trans after
  · have absent : session.player? id = none :=
      player?_eq_none.2 fun player member same => listed (same ▸ List.mem_map_of_mem member)
    rw [show (session.stop id).2 = session by simp only [Session.stop, absent]]
    exact (stops_other lives listed).1

theorem stopAll : InStep id session.stopAll other.stopAll :=
  (stop_stopAll lives blind).symm.trans
    ((same.stop lives livesOther blind id).trans (stop_stopAll livesOther (same.blind blind)))

end Common

theorem load (same : InStep id session other) (act : Act) :
    InStep id (session.load act).2 (other.load act).2 where
  settings := same.settings
  seeding := same.seeding
  nextPlayer := congrArg (· + 1) same.nextPlayer
  scenes := same.scenes
  signals := same.signals
  patch := same.patch
  entries := same.entries
  now := same.now
  player := by
    have sought (session : Session Universe) : (session.load act).2.player? id =
        (session.player? id).or ([Player.load ⟨session.nextPlayer⟩ act { session.settings with
          randomSeed := session.settings.randomSeed.map fun seed =>
            seed + session.nextPlayer.toUInt64 } session.seeding].find? fun player =>
              player.id == id) :=
      List.find?_append
    rw [aspect?, aspect?, sought, sought, Option.map_or, Option.map_or, ← aspect?, ← aspect?,
      same.player, same.settings, same.seeding, same.nextPlayer]

theorem restage (same : InStep id session other) {stage shown : Stage TimerQueue Universe}
    (now : stage.clock.now = session.now) (nowOther : shown.clock.now = other.now)
    (trace : stage.trace = session.stage.trace) (traceOther : shown.trace = other.stage.trace)
    (scenes : shown.scenes = stage.scenes) (signals : shown.signals = stage.signals)
    (patch : stage.output.SamePatch shown.output) :
    InStep id { session with stage } { other with stage := shown } where
  settings := same.settings
  seeding := same.seeding
  nextPlayer := same.nextPlayer
  scenes := scenes
  signals := signals
  patch := patch
  player := same.player
  entries := by
    rw [entriesOf, entriesOf, trace, traceOther]
    exact same.entries
  now := nowOther.trans (same.now.trans now.symm)

theorem perform {request : Request Universe} (same : InStep id session other)
    (timely : Timely session log) (timelyOther : Timely other logOther) (common : request.IsCommon)
    (blind : ∀ player, (session.boarded request).player? id = some player → ¬player.act.ReadsLevels)
    (answer : session.perform request = some later)
    (answerOther : other.perform request = some reached) : InStep id later reached := by
  have lives := timely.toLives
  have livesOther := timelyOther.toLives
  have passed {target : Nat} (asked : session.until? request = some target)
      (askedOther : other.until? request = some target)
      (blind : ∀ player, session.player? id = some player → ¬player.act.ReadsLevels) :
      InStep id later reached := by
    obtain ⟨inStep, now⟩ := same.toMatches.fireWindow same.now timely timelyOther blind
      (fireWindow_of_until? asked answer).1 (fireWindow_of_until? askedOther answerOther).1
    exact ⟨inStep, now⟩
  cases request with
  | load act =>
    obtain rfl := Option.some.inj answer
    obtain rfl := Option.some.inj answerOther
    exact same.load act
  | play act =>
    obtain ⟨_, started⟩ := exists_start_of_play answer
    obtain ⟨_, startedOther⟩ := exists_start_of_play answerOther
    have named : (other.load act).1 = (session.load act).1 := congrArg PlayerId.mk same.nextPlayer
    rw [named] at startedOther
    exact (same.load act).start (lives.load act) (livesOther.load act) blind started startedOther
  | start named =>
    obtain ⟨_, started⟩ := exists_start answer
    obtain ⟨_, startedOther⟩ := exists_start answerOther
    exact same.start lives livesOther blind started startedOther
  | stop named =>
    obtain rfl := Option.some.inj answer
    obtain rfl := Option.some.inj answerOther
    exact same.stop lives livesOther blind named
  | unload named =>
    obtain rfl := Option.some.inj answer
    obtain rfl := Option.some.inj answerOther
    rw [unload_eq, unload_eq]
    exact (same.stop lives livesOther blind named).remove named
  | stopAll =>
    obtain rfl := Option.some.inj answer
    obtain rfl := Option.some.inj answerOther
    exact same.stopAll lives livesOther blind
  | advance delay => exact passed rfl (congrArg (some <| · + delay) same.now) blind
  | advanceTo target => exact passed rfl rfl blind
  | runUntilIdle => exact common.elim
  | changeSignals change =>
    obtain rfl := Option.some.inj answer
    obtain rfl := Option.some.inj answerOther
    exact same.restage rfl rfl rfl rfl same.scenes (congrArg change same.signals) same.patch
  | changeScenes change =>
    obtain rfl := Option.some.inj answer
    obtain rfl := Option.some.inj answerOther
    exact same.restage rfl rfl rfl rfl (congrArg change same.scenes) same.signals same.patch
  | changeOutput change =>
    obtain rfl := Option.some.inj answer
    obtain rfl := Option.some.inj answerOther
    exact same.restage rfl rfl rfl rfl same.scenes same.signals (common _ _ same.patch)
  | changeBus change =>
    obtain rfl := Option.some.inj answer
    obtain rfl := Option.some.inj answerOther
    exact same.restage rfl rfl rfl rfl same.scenes same.signals same.patch

end InStep

namespace Apart

variable {id : PlayerId} {act : Act} {session other : Session Universe}

/-- Both sessions have a course of their own, and in the first one the player plays its act. -/
theorem courses (apart : Apart id act session other) :
    (∃ past, Course session past ∧ ∀ loaded', (id, loaded') ∈ loaded past → loaded' = act) ∧
      ∃ past, Course other past := by
  have silent {session : Session Universe} {request : Request Universe}
      (elsewhere : request.IsElsewhere id) : session.loads request = [] := by
    cases request <;> first | rfl | exact elsewhere.elim
  induction apart with
  | create dmx scenes settings seed seeding =>
    exact ⟨⟨[], .create .., by simp [loaded]⟩, [], .create ..⟩
  | both _ request _ own answer answerOther ih =>
    obtain ⟨⟨past, course, plays⟩, pastOther, courseOther⟩ := ih
    refine ⟨⟨_, course.perform request answer, fun loaded' member => ?_⟩, _,
      courseOther.perform request answerOther⟩
    rw [loaded_append, List.mem_append] at member
    exact member.elim (plays loaded') (own loaded')
  | here _ request elsewhere answer ih =>
    obtain ⟨⟨past, course, plays⟩, courseOther⟩ := ih
    refine ⟨⟨_, course.perform request answer, fun loaded' member => ?_⟩, courseOther⟩
    rw [loaded_append, silent elsewhere, List.append_nil] at member
    exact plays loaded' member
  | there _ request _ answer ih =>
    obtain ⟨course, pastOther, courseOther⟩ := ih
    exact ⟨course, _, courseOther.perform request answer⟩

theorem inStep (apart : Apart id act session other) (blind : ¬act.ReadsLevels) :
    InStep id session other := by
  induction apart with
  | create dmx scenes settings seed seeding => exact .refl id _
  | @both session other later reached before request common own answer answerOther ih =>
    obtain ⟨⟨past, course, plays⟩, pastOther, courseOther⟩ := before.courses
    obtain ⟨log, run⟩ := course.run
    obtain ⟨logOther, runOther⟩ := courseOther.run
    refine ih.perform run.timely runOther.timely common (fun player found => ?_) answer answerOther
    have member := course.boarded request found
    rw [loaded_append, List.mem_append] at member
    rw [member.elim (plays _) (own _)]
    exact blind
  | here before request elsewhere answer ih =>
    obtain ⟨⟨past, course, -⟩, -⟩ := before.courses
    obtain ⟨log, run⟩ := course.run
    exact (InStep.elsewhere (Lives.kept.run run) elsewhere answer).symm.trans ih
  | there before request elsewhere answer ih =>
    obtain ⟨-, past, course⟩ := before.courses
    obtain ⟨log, run⟩ := course.run
    exact ih.trans (.elsewhere (Lives.kept.run run) elsewhere answer)

/-- Players do not interfere: whatever a host asks of the others, a player that reads no levels comes out
the same but for the handle of its timer, and it has done the same at the same times. -/
theorem undisturbed (apart : Apart id act session other) (blind : ¬act.ReadsLevels) :
    other.now = session.now ∧ other.aspect? id = session.aspect? id ∧
      other.entriesOf id = session.entriesOf id := by
  have inStep := apart.inStep blind
  exact ⟨inStep.now, inStep.player, inStep.entries⟩

/-- Two players of one act, of which the second is started in one session only. -/
theorem undisturbed_relay :
    ∃ session other : Session Universe, Apart ⟨1⟩ .relay session other ∧
      (session.entriesOf ⟨2⟩).length = 3 ∧ (other.entriesOf ⟨2⟩).length = 0 ∧
      (session.entriesOf ⟨1⟩).length = 3 ∧ other.entriesOf ⟨1⟩ = session.entriesOf ⟨1⟩ := by
  let ready : Session Universe :=
    (((Session.create (.empty 1) .empty { maxSyncSteps := 3, randomSeed := some 7, eventHistory := 8 }
      (.splitmix 0)).load .relay).2.load .relay).2
  have course : (do
      let busy ← ready.perform (.start ⟨2⟩)
      let first ← busy.perform (.start ⟨1⟩)
      let second ← ready.perform (.start ⟨1⟩)
      let session ← first.perform (.advance (Span.ofMilliseconds 10))
      let other ← second.perform (.advance (Span.ofMilliseconds 10))
      some ((session.entriesOf ⟨2⟩).length, (other.entriesOf ⟨2⟩).length,
        (session.entriesOf ⟨1⟩).length)) = some (3, 0, 3) := by decide
  simp only [Option.bind_eq_bind, Option.bind_eq_some_iff, Option.some.injEq, Prod.mk.injEq] at course
  obtain ⟨busy, started, first, own, second, ownOther, session, passed, other, passedOther, told⟩ :=
    course
  have loads (session : Session Universe) :
      ∀ loaded, (⟨1⟩, loaded) ∈ session.loads (.load .relay) → loaded = .relay := by
    intro loaded member
    exact (Prod.mk.inj (List.mem_singleton.1 member)).2
  have apart : Apart ⟨1⟩ .relay session other :=
    (((((Apart.create (.empty 1) .empty ⟨3, none, 8⟩ 7 (.splitmix 0)).both
      (.load .relay) trivial (loads _) rfl rfl).both
      (.load .relay) trivial (loads _) rfl rfl).here
      (.start ⟨2⟩) (by simp [Request.IsElsewhere]) started).both
      (.start ⟨1⟩) trivial (by simp [Session.loads]) own ownOther).both
      (.advance (Span.ofMilliseconds 10)) trivial (by simp [Session.loads]) passed passedOther
  have blind : ¬Act.relay.ReadsLevels := by
    rintro ⟨node, listed, payload, channel, kind, -⟩
    simp only [Act.relay, List.mem_cons, List.not_mem_nil, or_false] at listed
    rcases listed with rfl | rfl
    · cases kind
    · cases kind
  exact ⟨session, other, apart, told.1, told.2.1, told.2.2, (apart.undisturbed blind).2.2⟩

end Apart

end Session

end LightingDesk
