import LightingDesk.Proofs.Playback.Lives

/-!
The events of a session tell of entered nodes what the moments of its players tell, in the same order:
`Session.Run.events_entered`.
-/

namespace LightingDesk

section Calls

variable {σ ω : Type} [Scheduler σ] [Output ω] {player later : Player} {stage stage' : Stage σ ω}

omit [Scheduler σ] [Output ω] in
theorem Stage.Enters.nodes {nodes : List NodeId} (enters : stage.Enters stage' nodes) :
    stage'.trace.toList.filterMap TraceEntry.entered? =
      stage.trace.toList.filterMap TraceEntry.entered? ++ nodes := by
  obtain ⟨entries, grown, entered⟩ := enters
  rw [grown, List.filterMap_append, entered]

theorem Moment.enters {moment : Moment σ ω} {next : Option Step}
    (free : moment.player.waiting = none) (taken : moment.turn = some (later, stage, next)) :
    moment.stage.Enters stage moment.entered := by
  have turned : moment.player.counted.Turned moment.stage moment.step _ :=
    Player.execute_turned free taken
  have told {nodes : List NodeId} (enters : moment.stage.Enters stage nodes) :
      moment.stage.Enters stage moment.entered := by
    rw [Moment.entered_of_enters taken enters]
    exact enters
  cases turned with
  | stopped => exact told (moment.stage.enters_emit _)
  | goesOn _ _ _ _ reports => exact told reports.enters
  | waits _ _ _ _ reports => exact told reports.enters
  | stuck => exact told (.refl _)

theorem Player.drive_enters {step : Step} {fresh : Bool} (free : player.waiting = none)
    (driven : player.drive stage step fresh = some (later, stage')) :
    stage.Enters stage' ((player.driveMoments stage step fresh).flatMap Moment.entered) := by
  have first : (player.burst stage fresh).waiting = none ∧
      stage.Enters stage (([] : List (Moment σ ω)).flatMap Moment.entered) := by
    obtain ⟨burstAt, burstSteps, same⟩ := player.burst_eq stage fresh
    rw [same]
    exact ⟨free, .refl stage⟩
  have grows {past : List (Moment σ ω)} {moment : Moment σ ω} {later : Player}
      {shown : Stage σ ω} {next : Option Step} (free : moment.player.waiting = none)
      (enters : stage.Enters moment.stage (past.flatMap Moment.entered))
      (taken : moment.turn = some (later, shown, next)) :
      stage.Enters shown ((past ++ [moment]).flatMap Moment.entered) := by
    rw [List.flatMap_append, List.flatMap_singleton]
    exact enters.trans (moment.enters free taken)
  refine run_rule
    (P := fun past player shown _ =>
      player.waiting = none ∧ stage.Enters shown (past.flatMap Moment.entered))
    (Q := fun past _ shown => stage.Enters shown (past.flatMap Moment.entered))
    ?_ ?_ ?_ first driven
  · rintro past player shown step later shown' next ⟨free, enters⟩ taken
    refine ⟨?_, grows free enters taken⟩
    have turned : player.counted.Turned shown step _ := execute_turned free taken
    cases turned with
    | goesOn _ _ free => exact free
  · rintro past player shown step later shown' ⟨free, enters⟩ taken
    exact grows free enters taken
  · rintro past player shown step later shown' ⟨free, enters⟩ armed
    obtain ⟨handle, clock, -, -, rfl⟩ := armYield_eq_some free armed
    exact enters

omit [Output ω] in
theorem Player.stop_enters (player : Player) (stage : Stage σ ω) :
    stage.Enters (player.stop stage).2 [] := by
  unfold stop
  split
  · unfold finish
    cases player.waiting with
    | none => exact stage.enters_emit _
    | some wait => exact (stage.withClock (Scheduler.cancel stage.clock wait.handle)).enters_emit _
  · exact .refl stage

theorem Player.start_enters {result : Except Fault Unit}
    (free : (player.stop stage).1.waiting = none)
    (answer : player.start stage = some (result, later, stage')) :
    stage.Enters stage' ((player.startMoments stage).flatMap Moment.entered) := by
  have stopped := player.stop_enters stage
  obtain ⟨-, -, -, rfl, none⟩ | ⟨node, -, -, driven, moments⟩ := start_cases answer
  · rw [none]
    exact stopped.trans ((player.stop stage).2.enters_emit _)
  · rw [moments]
    exact stopped.trans (drive_enters free driven)

theorem Player.timer_enters {token : Token}
    (answer : player.onTimer stage token = some (later, stage')) :
    stage.Enters stage' ((player.timerMoments stage token).flatMap Moment.entered) := by
  obtain ⟨-, rfl, none⟩ | ⟨wait, -, -, -, driven, moments⟩ := timer_cases answer
  · rw [none]
    exact .refl stage'
  · rw [moments]
    exact drive_enters rfl driven

end Calls

namespace Session

variable {ω : Type} [Output ω]

/-- The trace of a session holds what its players have entered. -/
structure Told (session : Session ω) (log : List (Moment TimerQueue ω)) : Prop
    extends Lives session log where
  told : session.stage.trace.toList.filterMap TraceEntry.entered? = log.flatMap Moment.entered

namespace Told

variable {session : Session ω} {log new : List (Moment TimerQueue ω)}

theorem grow {stage : Stage TimerQueue ω} (told : Told session log)
    (enters : session.stage.Enters stage (new.flatMap Moment.entered)) :
    stage.trace.toList.filterMap TraceEntry.entered? = (log ++ new).flatMap Moment.entered := by
  rw [enters.nodes, told.told, List.flatMap_append]

theorem kept : Kept (Told (ω := ω)) where
  create := fun output scenes settings seeding => ⟨.create output scenes settings seeding, rfl⟩
  restage := fun stage told _ trace => ⟨told.toLives.restage stage, trace ▸ told.told⟩
  load := fun act told => ⟨told.toLives.load act, told.told⟩
  remove := fun id told _ => ⟨told.toLives.remove id, told.told⟩
  start := by
    intro session log id player result later stage told found answer
    obtain ⟨act, life⟩ := told.life found
    have idle := (life.stop session.stage).chronicle.idles (player.stop_playing session.stage)
    exact ⟨told.toLives.start found answer, told.grow (Player.start_enters idle.1 answer)⟩
  stop := by
    intro session log id player told found
    have silent : session.stage.Enters (player.stop session.stage).2
        (([] : List (Moment TimerQueue ω)).flatMap Moment.entered) :=
      player.stop_enters session.stage
    have grown := told.grow silent
    rw [List.append_nil] at grown
    exact ⟨told.toLives.stop found, grown⟩
  drop := fun told _ _ => ⟨told.toLives.restage _, told.told⟩
  timer := fun told _ found answer =>
    ⟨told.toLives.timer found answer, told.grow (Player.timer_enters answer)⟩
  close := fun _ told => ⟨told.toLives.restage _, told.told⟩

end Told

/-- The nodes that the events of a session report as entered are those that its players enter in the
moments of its run. -/
theorem Run.events_entered {session : Session ω} {log : List (Moment TimerQueue ω)}
    (run : session.Run log) :
    session.events.filterMap Event.entered? = log.flatMap Moment.entered := by
  rw [← (Told.kept.run run).told, events, List.filterMap_filterMap]
  exact List.filterMap_congr fun entry _ => entry.entered?_eq.symm

end Session

end LightingDesk
