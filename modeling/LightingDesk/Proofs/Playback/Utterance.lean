import LightingDesk.Proofs.Playback.Arrival
import LightingDesk.Proofs.Playback.Moves

/-!
What an act lets its players say. Each cursor that a playback comes to accounts for a few reports
(`Cursor.Utters`); all that players report, on any stage and over all requests of a host, is of this kind,
or answers to their host: `Career.admits`, `Session.Course.admits`.
-/

namespace LightingDesk

namespace Cursor

/-- What player `id` may report when it takes the step of a cursor. -/
inductive Utters (act : Act) (id : PlayerId) : Cursor → Event → Prop where
  | entered {frames memory generator node} :
      Utters act id ⟨frames, memory, generator, .enter node⟩ (.nodeEntered id act.id node)
  | missingScene {frames memory generator node scene} :
      Utters act id ⟨frames, memory, generator, .enter node⟩
        (.warning id act.id (.missingScene node scene))
  | emptyTracker {frames memory generator node payload} (tracker : act.tracker? node = some payload)
      (due : payload.children[(memory.position node payload).index]? = none) :
      Utters act id ⟨frames, memory, generator, .trackerStep node⟩
        (.warning id act.id (.emptyTracker node))
  | missingChild {frames memory generator node payload child}
      (tracker : act.tracker? node = some payload)
      (due : payload.children[(memory.position node payload).index]? = some child)
      (absent : act.hasNode child = false) :
      Utters act id ⟨frames, memory, generator, .trackerStep node⟩
        (.warning id act.id (.missingTrackerChild node child))
  | trackerCycle {frames memory generator node child} :
      Utters act id ⟨frames, memory, generator, .trackerStep node⟩
        (.warning id act.id (.trackerCycle node child))
  | stopped {cursor reason} (stops : Stops act cursor reason) :
      Utters act id cursor (.stopped id act.id reason)

end Cursor

variable {σ ω : Type}

/-- From one state of the stage to a later one, the player reports what its cursor accounts for. -/
def Player.Voices (player : Player) (step : Step) (stage later : Stage σ ω) : Prop :=
  ∃ events, stage.Tells later events ∧
    ∀ event ∈ events, (player.cursor step).Utters player.act player.id event

/-! ### Steps -/

namespace Player

variable {player later : Player} {stage shown : Stage σ ω} {step : Step} {next : Option Step}

theorem Voices.silent : player.Voices step stage stage := ⟨[], .refl stage, by simp⟩

variable [Scheduler σ]

theorem Voices.emit {event : Event} (utters : (player.cursor step).Utters player.act player.id event) :
    player.Voices step stage (stage.emit event) :=
  ⟨[event], stage.tells_emit event, by simpa using utters⟩

/-- Arming a timer reports nothing. -/
theorem Voices.arm {moved : Player} {delay : Nat} {resume : Step} {curve : Option Curve}
    {reached : Stage σ ω} (voices : player.Voices step stage shown) (free : moved.waiting = none)
    (taken : pause (moved.arm shown delay resume curve) = some (later, reached, next)) :
    player.Voices step stage reached := by
  unfold pause at taken
  obtain ⟨⟨armed, stage'⟩, arms, same⟩ := Option.map_eq_some_iff.1 taken
  obtain ⟨handle, clock, -, -, rfl⟩ := arm_eq_some free arms
  obtain ⟨-, rfl, -⟩ := Prod.mk.inj same
  exact voices

omit [Scheduler σ] in
theorem goOn_stage {turned : Stage σ ω} {due : Step}
    (taken : player.goOn stage due = some (later, turned, next)) : turned = stage := by
  simp only [goOn, Option.some.injEq, Prod.mk.injEq] at taken
  exact taken.2.1.symm

theorem Voices.finish {moved : Player} {reason : StopReason} (free : moved.waiting = none)
    (same : moved.id = player.id ∧ moved.act = player.act)
    (stops : (player.cursor step).Stops player.act reason)
    (taken : pause (some (moved.finish stage reason)) = some (later, shown, next)) :
    player.Voices step stage shown := by
  rw [finish_eq moved stage reason free, same.1, same.2] at taken
  simp only [pause, Option.map_some, Option.some.injEq, Prod.mk.injEq] at taken
  obtain ⟨-, rfl, -⟩ := taken
  exact .emit (.stopped stops)

theorem childDone_voices {moved : Player} {parent : NodeId} (free : moved.waiting = none)
    (taken : moved.childDone stage parent = some (later, shown, next)) :
    player.Voices step stage shown := by
  unfold childDone at taken
  split at taken
  next =>
    split at taken
    next => exact goOn_stage taken ▸ .silent
    next =>
      dsimp only at taken
      split at taken
      next => exact goOn_stage taken ▸ .silent
      next =>
        refine Voices.silent.arm ?_ taken
        exact free
  next => exact goOn_stage taken ▸ .silent

theorem complete_voices {route : Route} (free : player.waiting = none)
    (taken : player.complete stage route = some (later, shown, next)) :
    player.Voices (.complete route) stage shown := by
  unfold complete at taken
  split at taken
  next =>
    simp only [pause, Option.map_some, Option.some.injEq, Prod.mk.injEq] at taken
    exact taken.2.1 ▸ .silent
  next done below frames =>
    cases below with
    | cons parent below =>
      change { player with frames := parent :: below }.childDone stage parent = _ at taken
      refine childDone_voices ?_ taken
      exact free
    | nil =>
      have cursor : player.cursor (.complete route) =
          ⟨[done], player.memory, player.generator, .complete route⟩ := by
        rw [Player.cursor, frames]
      have stopped {reason : StopReason}
          (stops : Cursor.Stops player.act
            ⟨[done], player.memory, player.generator, .complete route⟩ reason)
          (taken : pause (some ({ player with frames := [] }.finish stage reason)) =
            some (later, shown, next)) : player.Voices (.complete route) stage shown :=
        .finish free ⟨rfl, rfl⟩ (cursor ▸ stops) taken
      change { player with frames := [] }.follow stage done route = _ at taken
      unfold follow at taken
      split at taken
      next => exact stopped .noMatch taken
      next matched =>
        split at taken
        next unconnected => exact stopped (.completed matched unconnected) taken
        next edge chosen =>
          split at taken
          next => exact goOn_stage taken ▸ .silent
          next absent => exact stopped (.dangling chosen absent) taken

theorem trackerStep_voices {id : NodeId}
    (taken : player.trackerStep stage id = some (later, shown, next)) :
    player.Voices (.trackerStep id) stage shown := by
  unfold trackerStep at taken
  split at taken
  next payload kind =>
    have tracker : player.act.tracker? id = some payload := by
      simp only [Act.tracker?, kind]
    split at taken
    next due => exact goOn_stage taken ▸ .emit (.emptyTracker tracker due)
    next child due =>
      split at taken
      next absent =>
        exact goOn_stage taken ▸ .emit (.missingChild tracker due (by simpa using absent))
      next =>
        split at taken
        next => exact goOn_stage taken ▸ .emit .trackerCycle
        next => exact goOn_stage taken ▸ .silent
  next => exact goOn_stage taken ▸ .silent

variable [Output ω]

theorem enter_voices {id : NodeId} (free : player.waiting = none)
    (taken : player.enter stage id = some (later, shown, next)) :
    player.Voices (.enter id) stage shown := by
  unfold enter at taken
  cases found : player.act.node? id with
  | none =>
    simp only [found] at taken
    exact .finish free ⟨rfl, rfl⟩ (.vanished (by simp [Act.hasNode, found])) taken
  | some node =>
    simp only [found] at taken
    have entered : player.Voices (.enter id) stage
        (stage.emit (.nodeEntered player.id player.act.id id)) := .emit .entered
    cases kind : node.kind with
    | scene payload =>
      simp only [kind] at taken
      rw [goOn_stage taken]
      unfold showScene
      split
      · exact entered
      · split
        · obtain ⟨events, tells, utters⟩ := entered
          exact ⟨events, by simpa using tells.trans (Stage.tells_apply _ _ _ _), utters⟩
        · obtain ⟨events, tells, utters⟩ := entered
          refine ⟨_, tells.trans (Stage.tells_emit _ _), ?_⟩
          simp only [List.mem_append, List.mem_singleton]
          rintro event (earlier | rfl)
          · exact utters event earlier
          · exact .missingScene
    | wait payload =>
      simp only [kind] at taken
      refine entered.arm ?_ taken
      exact free
    | transition payload =>
      simp only [kind] at taken
      refine entered.arm ?_ taken
      exact free
    | condition payload =>
      simp only [kind] at taken
      exact goOn_stage taken ▸ entered
    | tracker payload =>
      simp only [kind] at taken
      exact goOn_stage taken ▸ entered

theorem execute_voices (free : player.waiting = none)
    (taken : player.execute stage step = some (later, shown, next)) :
    player.Voices step stage shown := by
  cases step with
  | enter id => exact enter_voices free taken
  | complete route => exact complete_voices free taken
  | trackerStep id => exact trackerStep_voices taken

end Player

/-! ### Calls -/

/-- What a player of the act may report: what the cursors of a playback account for, that its host stops
it, and that an act without nodes cannot be started. -/
inductive Act.Admits (act : Act) (id : PlayerId) : Event → Prop where
  | uttered {cursor : Cursor} {event : Event} (arises : cursor.Arises act)
      (utters : cursor.Utters act id event) : Admits act id event
  | dismissed : Admits act id (.stopped id act.id .stoppedByUser)
  | refused (empty : act.nodes = []) : Admits act id (.stopped id act.id (.fault .emptyGraph))

theorem Act.Admits.named {act : Act} {id : PlayerId} {event : Event} (admits : act.Admits id event) :
    event.player = id := by
  cases admits with
  | uttered arises utters => cases utters <;> rfl
  | dismissed | refused => rfl

/-- From one state of the stage to a later one, all reports are such as a player of the act may make. -/
def Act.Covers (act : Act) (id : PlayerId) (stage later : Stage σ ω) : Prop :=
  ∃ events, stage.Tells later events ∧ ∀ event ∈ events, act.Admits id event

theorem Act.Covers.trans {act : Act} {id : PlayerId} {first second third : Stage σ ω}
    (before : act.Covers id first second) (after : act.Covers id second third) :
    act.Covers id first third := by
  obtain ⟨events, tells, admitted⟩ := before
  obtain ⟨others, tellsOthers, admittedOthers⟩ := after
  refine ⟨events ++ others, tells.trans tellsOthers, ?_⟩
  intro event member
  exact (List.mem_append.1 member).elim (admitted event) (admittedOthers event)

theorem Act.Covers.refl {act : Act} {id : PlayerId} (stage : Stage σ ω) : act.Covers id stage stage :=
  ⟨[], .refl stage, by simp⟩

theorem Act.Covers.emit [Scheduler σ] {act : Act} {id : PlayerId} {event : Event} (stage : Stage σ ω)
    (admitted : act.Admits id event) : act.Covers id stage (stage.emit event) :=
  ⟨[event], stage.tells_emit event, by simpa using admitted⟩

variable [Scheduler σ] [Output ω] {act : Act} {id : PlayerId} {token : Token} {player later : Player}
  {stage shown : Stage σ ω} {past log : List (Moment σ ω)} {step : Step}

theorem Underway.covers {next : Option Step} (underway : Underway act token past player step)
    (taken : player.counted.execute stage step = some (later, shown, next)) :
    act.Covers token.player stage shown := by
  have free : player.counted.waiting = none := underway.free
  obtain ⟨events, tells, utters⟩ := Player.execute_voices free taken
  refine ⟨events, tells, fun event member => .uttered underway.playback.arises ?_⟩
  rw [← underway.plays, ← underway.named]
  exact utters event member

theorem Underway.drive_covers {fresh : Bool} (underway : Underway act token past player step)
    (driven : player.drive stage step fresh = some (later, shown)) :
    act.Covers token.player stage shown := by
  refine Player.run_rule
    (P := fun past player middle step =>
      Underway act token past player step ∧ act.Covers token.player stage middle)
    (Q := fun _ _ shown => act.Covers token.player stage shown) ?goes ?rests ?yields
    ⟨underway.burst stage fresh, .refl stage⟩ driven
  case goes =>
    rintro past player middle step later shown next ⟨underway, before⟩ taken
    exact ⟨underway.goes taken, before.trans (underway.covers taken)⟩
  case rests =>
    rintro past player middle step later shown ⟨underway, before⟩ taken
    exact before.trans (underway.covers taken)
  case yields =>
    rintro past player middle step later shown ⟨underway, before⟩ armed
    obtain ⟨handle, clock, -, -, rfl⟩ := Player.armYield_eq_some underway.free armed
    exact before

theorem Chronicle.covers {call : Call} (chronicle : Chronicle id act player log)
    (answer : player.answer stage call = some (later, shown)) : act.Covers id stage shown := by
  have farewell : act.Covers id stage (player.stop stage).2 := by
    refine ⟨_, player.stop_tells stage, ?_⟩
    unfold Player.farewell
    split
    · rw [chronicle.named, chronicle.plays]
      simpa using .dismissed
    · simp
  cases call with
  | stop =>
    obtain ⟨-, rfl⟩ := Prod.mk.inj (Option.some.inj answer)
    exact farewell
  | start =>
    obtain ⟨result, started⟩ := Player.answer_start_iff.1 answer
    have cases := Player.start_cases started
    rw [chronicle.plays, chronicle.named] at cases
    rcases cases with ⟨absent, -, -, rfl, -⟩ | ⟨node, found, -, driven, -⟩
    · exact farewell.trans (.emit _ (.refused (Act.startId?_eq_none.1 absent)))
    · have underway := chronicle.restarts stage (chronicle.plays.symm ▸ found)
      have spoken := underway.drive_covers driven
      rw [show ((player.stop stage).1.begun (player.stop stage).2).token.player = id from
        (player.stop_id stage).trans chronicle.named] at spoken
      exact farewell.trans spoken
  | timer token =>
    rcases Player.timer_cases answer with ⟨-, rfl, -⟩ | ⟨wait, rfl, playing, waiting, driven, -⟩
    · exact .refl _
    · have spoken := (chronicle.resumes playing waiting).drive_covers driven
      rwa [show player.token.player = id from chronicle.named] at spoken

/-- Whatever the stages of the calls on a player, it reports what its act lets it report. -/
theorem Career.admits {log : List (Episode σ ω)} (career : Career id act player log) :
    ∀ episode ∈ log, ∀ event ∈ episode.events, act.Admits id event := by
  induction career with
  | load => simp
  | call before call stage answer ih =>
    intro episode member event reported
    rcases List.mem_append.1 member with earlier | now
    · exact ih episode earlier event reported
    · obtain rfl := List.mem_singleton.1 now
      obtain ⟨moments, life⟩ := before.life
      obtain ⟨events, tells, admitted⟩ := life.chronicle.covers answer
      rw [Episode.events, tells.since_eq] at reported
      exact admitted event reported

/-! ### Sessions -/

namespace Session

open Relation

variable {ω : Type} [Output ω] {loads more : List (PlayerId × Act)} {session later : Session ω}

/-- The players of a session, and those that have been taken out, have reported what their acts let them
report. -/
structure Heard (loads : List (PlayerId × Act)) (session : Session ω) : Prop where
  lives : ∃ log, Lives session log
  plays : ∀ id player, session.player? id = some player → (id, player.act) ∈ loads
  heard : ∀ event ∈ session.events, ∃ act, (event.player, act) ∈ loads ∧ act.Admits event.player event

omit [Output ω] in
theorem events_of_tells {events : List Event} (tells : session.stage.Tells later.stage events) :
    later.events = session.events ++ events := by
  obtain ⟨entries, grown, rfl⟩ := tells
  rw [Session.events, grown, List.filterMap_append]
  rfl

namespace Heard

theorem moves (heard : Heard loads session) (moves : session.Moves later) : Heard loads later := by
  obtain ⟨log, lives⟩ := heard.lives
  have alive := lives.moves moves
  have plays := lives.acts_of_moves (P := fun id act => (id, act) ∈ loads) heard.plays moves
  cases moves with
  | remove | clock => exact ⟨alive, plays, heard.heard⟩
  | @call id player reached shown call found answer =>
    obtain ⟨act, life⟩ := lives.life found
    have known := heard.plays id player found
    have chronicle := life.chronicle
    obtain ⟨events, tells, admitted⟩ := chronicle.covers answer
    refine ⟨alive, plays, fun event member => ?_⟩
    have grown : (session.replace reached shown).events = session.events ++ events :=
      events_of_tells tells
    rw [grown] at member
    rcases List.mem_append.1 member with earlier | now
    · exact heard.heard event earlier
    · have admits := admitted event now
      rw [← chronicle.plays] at admits
      rw [admits.named]
      exact ⟨_, known, admits⟩

theorem performed {request : Request ω} (boarded : Heard loads (session.boarded request))
    (answer : session.perform request = some later) : Heard loads later := by
  refine perform_rule Heard.moves (fun change => ?_) boarded answer
  obtain ⟨⟨log, lives⟩, plays, heard⟩ := boarded
  cases request with
  | changeSignals | changeScenes | changeOutput | changeBus =>
    obtain rfl := Option.some.inj answer
    exact ⟨⟨log, lives.restage _⟩, plays, heard⟩
  | _ => exact change.elim

end Heard

theorem Course.heard {past : List (Session ω × Request ω)} (course : Course session past) :
    Heard (loaded past) session := by
  induction course with
  | create output scenes settings seeding =>
    have silent : (Session.create output scenes settings seeding).events = [] := rfl
    exact ⟨⟨[], .create output scenes settings seeding⟩, by simp [Session.create, player?],
      by simp [silent]⟩
  | @perform session past later before request answer ih =>
    refine Heard.performed ⟨?_, fun id player => before.boarded request, ?_⟩ answer
    · obtain ⟨log, lives⟩ := ih.lives
      exact lives.boarded request
    · intro event member
      have earlier : event ∈ session.events := by
        cases request <;> exact member
      obtain ⟨act, listed, admits⟩ := ih.heard event earlier
      exact ⟨act, loaded_append .. ▸ List.mem_append_left _ listed, admits⟩

/-- Over all requests of a host, players report what the acts that they were loaded with let them
report. -/
theorem Course.admits {past : List (Session ω × Request ω)} (course : Course session past)
    {id : PlayerId} {act : Act} (listed : (id, act) ∈ loaded past) :
    ∀ event ∈ session.eventsOf id, act.Admits id event := by
  intro event member
  obtain ⟨reported, named⟩ := List.mem_filter.1 member
  obtain rfl : event.player = id := by simpa using named
  obtain ⟨other, known, admits⟩ := course.heard.heard event reported
  obtain rfl : other = act :=
    congrArg Prod.snd (List.inj_on_of_nodup_map course.spoken.once known listed rfl)
  exact admits

end Session

end LightingDesk
