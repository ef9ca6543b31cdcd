import LightingDesk.Dmx.Universe
import LightingDesk.Proofs.Playback.Drive
import LightingDesk.Proofs.Playback.Lives
import LightingDesk.Proofs.Playback.Walk

/-!
What a host is shown of a player between its requests. A playing player stands on a node of its act,
or it has left one and the budget did not last until the next (`Player.Between`):
`Session.Reachable.snapshots`. `Session.unplaced_relay` comes between two nodes in this way.
-/

namespace LightingDesk

/-- Without frames a cursor has just followed a connection. -/
theorem Cursor.Next.arrives {act : Act} {outcome : Bool} {before after : Cursor} (fits : before.Fits act)
    (next : Cursor.Next act outcome before after) (outside : after.frames = []) :
    ∃ edge ∈ act.connections, after.step = .enter edge.target ∧ act.hasNode edge.target = true := by
  cases next with
  | plain | condition | tracker | moveOn | finished | strayChild => cases outside
  | child | childless | missing | busy | strayStep => exact absurd outside fits.ne_nil_of_trackerStep
  | @follow done _ _ route edge target chosen found =>
    have node : act.node? edge.target = some target := found
    rw [Act.id_of_node? node]
    exact ⟨edge, Act.mem_of_connection? chosen, rfl, Act.id_of_node? node ▸ Act.hasNode_target found⟩

section Stands

variable {σ ω : Type} [Scheduler σ] [Output ω] {id : PlayerId} {act : Act} {token : Token}
  {player later : Player} {stage shown : Stage σ ω} {first : Step} {past log taken : List (Moment σ ω)}
  {cursor : Cursor} {wait : Wait}

theorem Playback.arrives (playback : Playback act token past (some cursor)) (stepped : past ≠ [])
    (outside : cursor.frames = []) :
    ∃ edge ∈ act.connections, cursor.step = .enter edge.target ∧ act.hasNode edge.target = true := by
  obtain ⟨earlier, moment, rfl⟩ := (List.eq_nil_or_concat' past).resolve_left stepped
  obtain ⟨-, due, rfl, -, live⟩ := playback.append_singleton
  exact (live.next_of_due? due.symm).arrives live.fits outside

/-- How a player waits after a run: for the delay of its innermost node, or for the next window as its
budget is spent. -/
structure Player.Bides (player : Player) (wait : Wait) : Prop where
  delayed : wait.yielded = false → player.delay? = some wait.delay
  spent : wait.yielded = true → player.settings.budget ≤ player.burstSteps

omit [Output ω] in
theorem Player.Drove.bides (drove : player.Drove stage first taken later shown)
    (waiting : later.waiting = some wait) : later.Bides wait := by
  obtain ⟨events, -, ends | ⟨other, pauses⟩⟩ := drove.outcome
  · rw [ends.free] at waiting
    cases waiting
  · obtain rfl := Option.some.inj (pauses.waiting.symm.trans waiting)
    exact ⟨fun delays => (pauses.delayed delays).2,
      fun yields => drove.settings.symm ▸ (pauses.yielded yields).2⟩

theorem Life.bides (life : Life id act player log) (waiting : player.waiting = some wait) :
    player.Bides wait := by
  induction life with
  | load => cases waiting
  | stop before stage =>
    rw [before.stop_waiting stage] at waiting
    cases waiting
  | @start player log result later shown before stage answer =>
    rcases before.chronicle.start_drove answer with ⟨-, -, rfl, -⟩ | ⟨node, -, -, drove⟩
    · rw [before.stop_waiting stage] at waiting
      cases waiting
    · exact drove.bides waiting
  | timer before stage token answer ih =>
    rcases before.chronicle.timer_drove answer with ⟨rfl, -⟩ | ⟨earlier, -, -, -, drove⟩
    · exact ih waiting
    · exact drove.bides waiting

/-- A playback that is under way has taken a step: a start leaves enough of the budget for one. -/
theorem Life.stepped (life : Life id act player log) (playing : player.playing = true) :
    Moment.playback player.token log ≠ [] := by
  induction life with
  | load => cases playing
  | stop before stage =>
    rw [Player.stop_playing] at playing
    cases playing
  | @start player log result later shown before stage answer =>
    rcases Player.start_cases answer with ⟨-, -, rfl, -⟩ | ⟨node, found, -, driven, moments⟩
    · rw [player.stop_playing stage] at playing
      cases playing
    · have underway := before.chronicle.restarts stage found
      rw [moments, (underway.drive driven).playback_eq playing]
      exact List.append_ne_nil_of_right_ne_nil _
        ((underway.drove driven).stepped (player.restarted_fresh stage))
  | @timer player log later shown before stage token answer ih =>
    rcases Player.timer_cases answer with ⟨rfl, -, none⟩ | ⟨wait, -, played, waiting, driven, moments⟩
    · rw [none, List.append_nil]
      exact ih playing
    · have underway := before.chronicle.resumes played waiting
      rw [moments, (underway.drive driven).playback_eq playing]
      exact List.append_ne_nil_of_left_ne_nil (ih played) _

/-- The player has left a graph node, and the budget is spent before it enters `next`, to which a
connection leads: that is put off to a later window. -/
structure Player.Between (player : Player) (next : NodeId) : Prop where
  outside : player.frames = []
  waits : ∃ wait, player.waiting = some wait ∧ wait.yielded = true ∧ wait.resume = .enter next
  spent : player.settings.budget ≤ player.burstSteps
  arrives : ∃ edge ∈ player.act.connections, edge.target = next
  present : player.act.hasNode next = true

theorem Life.exists_between (life : Life id act player log) (playing : player.playing = true)
    (outside : player.frames = []) : ∃ next, player.Between next := by
  have chronicle := life.chronicle
  obtain ⟨wait, waiting, playback⟩ := chronicle.waits playing
  obtain ⟨edge, member, enters, present⟩ := playback.arrives (life.stepped playing) outside
  have bides := life.bides waiting
  -- a delay is that of the innermost node, and there is none
  have yielded : wait.yielded = true := by
    by_contra delays
    have asked := bides.delayed (Bool.not_eq_true _ ▸ delays)
    rw [Player.delay?, outside] at asked
    cases asked
  rw [← chronicle.plays] at member present
  exact ⟨edge.target, outside, ⟨wait, waiting, yielded, enters⟩, bides.spent yielded,
    ⟨edge, member, rfl⟩, present⟩

theorem Life.playing_of_waiting (life : Life id act player log) (waiting : player.waiting = some wait) :
    player.playing = true := by
  by_contra idle
  rw [(life.chronicle.idles (Bool.not_eq_true _ ▸ idle)).1] at waiting
  cases waiting

theorem Life.playing_of_frames (life : Life id act player log) (inside : player.frames ≠ []) :
    player.playing = true := by
  by_contra idle
  exact inside (life.chronicle.idles (Bool.not_eq_true _ ▸ idle)).2.1

theorem Life.hasNode_of_mem_frames {node : NodeId} (life : Life id act player log)
    (member : node ∈ player.frames) : player.act.hasNode node = true := by
  have playing := life.playing_of_frames (List.ne_nil_of_mem member)
  obtain ⟨wait, -, playback⟩ := life.chronicle.waits playing
  exact life.chronicle.plays ▸ playback.fits.present node member

end Stands

namespace Session

variable {ω : Type} [Output ω] {session : Session ω} {id : PlayerId} {player : Player}

/-- A snapshot has a current node if and only if there are frames, and the node is one of the act. An
idle player has none. A playing one has a node too, unless its budget was spent between two nodes. -/
theorem Reachable.snapshots (reachable : session.Reachable)
    (found : session.player? id = some player) (now : Nat) :
    ((player.snapshot now).currentNode.isSome = true ↔ 0 < player.depth) ∧
    (∀ node, (player.snapshot now).currentNode = some node → player.act.hasNode node = true) ∧
    ((player.snapshot now).isPlaying = true ↔
      0 < player.depth ∨ ∃ next, player.Between next) := by
  obtain ⟨log, run⟩ := reachable
  obtain ⟨act, life⟩ := (Lives.kept.run run).life found
  refine ⟨?_, ?_, ?_, ?_⟩
  · exact List.getLast?_isSome.trans List.length_pos_iff.symm
  · exact fun node current => life.hasNode_of_mem_frames (List.mem_of_getLast? current)
  · intro playing
    by_cases outside : player.frames = []
    · exact .inr (life.exists_between playing outside)
    · exact .inl (List.length_pos_iff.2 outside)
  · rintro (inside | ⟨next, between⟩)
    · exact life.playing_of_frames (List.length_pos_iff.1 inside)
    · obtain ⟨wait, waiting, -⟩ := between.waits
      exact life.playing_of_waiting waiting

/-- The relay of two nodes, with the least budget and one window after its start. -/
theorem relayed : ∃ session : Session Universe, ∃ player, session.Reachable ∧
    session.player? ⟨1⟩ = some player ∧ player.playing = true ∧ player.frames = [] ∧
      player.waiting.map Wait.resume = some (.enter ⟨"second"⟩) := by
  have course : ((bare 1).perform (.play .relay)).bind
      (fun session => (session.perform (.advance 0)).bind fun later =>
        (later.player? ⟨1⟩).map fun player =>
          (player.playing, player.frames, player.waiting.map Wait.resume)) =
      some (true, [], some (.enter ⟨"second"⟩)) := by decide
  obtain ⟨session, played, course⟩ := Option.bind_eq_some_iff.1 course
  obtain ⟨later, advanced, course⟩ := Option.bind_eq_some_iff.1 course
  obtain ⟨player, found, stands⟩ := Option.map_eq_some_iff.1 course
  simp only [Prod.mk.injEq] at stands
  exact ⟨later, player, ⟨_, .perform (.perform (.bare 1) _ played) _ advanced⟩, found, stands⟩

theorem snapshots_relay : ∃ session : Session Universe, ∃ player, session.Reachable ∧
    session.player? ⟨1⟩ = some player ∧ player.Between ⟨"second"⟩ := by
  obtain ⟨session, player, reachable, found, playing, outside, resumes⟩ := relayed
  have shown := reachable.snapshots found session.now
  rcases shown.2.2.1 playing with inside | ⟨next, between⟩
  · exact absurd outside (List.length_pos_iff.1 inside)
  · obtain ⟨wait, waiting, -, enters⟩ := between.waits
    rw [waiting, Option.map_some, enters, Option.some.injEq, Step.enter.injEq] at resumes
    exact ⟨session, player, reachable, found, resumes ▸ between⟩

/-- A playing player need not have a current node. -/
theorem unplaced_relay : ∃ session : Session Universe, ∃ player, session.Reachable ∧
    session.player? ⟨1⟩ = some player ∧ (player.snapshot session.now).isPlaying = true ∧
      (player.snapshot session.now).currentNode = none ∧ player.depth = 0 := by
  obtain ⟨session, player, reachable, found, playing, outside, -⟩ := relayed
  refine ⟨session, player, reachable, found, playing, ?_, ?_⟩
  · exact List.getLast?_eq_none_iff.2 outside
  · exact List.length_eq_zero_iff.2 outside

end Session

end LightingDesk
