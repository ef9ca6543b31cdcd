import LightingDesk.Proofs.Playback.Career

/-!
The protocol of a player: its events form blocks, one for each start. A block is opened by the start
node and closed by one report that the playback has stopped; an act without nodes gets a block that is
that report alone. `Player.Responds.protocol` says what each call adds.
-/

namespace LightingDesk

/-- A warning tells of a fault that the playback recovers from, a stop of one that ends it. -/
def Event.IsProper : Event → Prop
  | .warning _ _ fault => fault.isTerminal = false
  | .stopped _ _ (.fault fault) => fault.isTerminal = true
  | _ => True

/-- A report that the host has stopped a playback. -/
def Event.IsUserStop : Event → Prop
  | .stopped _ _ .stoppedByUser => True
  | _ => False

theorem Event.IsPassing.isProper {id : PlayerId} {act : ActId} {event : Event}
    (passing : event.IsPassing id act) : event.IsProper := by
  cases event with
  | nodeEntered => trivial
  | stopped => exact passing.elim
  | warning => exact passing.2.2

theorem Event.IsPassing.named {id : PlayerId} {act : ActId} {event : Event}
    (passing : event.IsPassing id act) : event.player = id := by
  cases event with
  | nodeEntered => exact passing.1
  | stopped => exact passing.elim
  | warning => exact passing.1

theorem Event.IsPassing.not_userStop {id : PlayerId} {act : ActId} {event : Event}
    (passing : event.IsPassing id act) : ¬event.IsUserStop := by
  cases event with
  | nodeEntered | warning => exact not_false
  | stopped => exact passing.elim

theorem StopReason.IsNatural.isProper {reason : StopReason} (natural : reason.IsNatural)
    (id : PlayerId) (act : ActId) : (Event.stopped id act reason).IsProper := by
  cases reason with
  | completed | stoppedByUser => trivial
  | fault fault =>
    cases fault with
    | danglingEdge | noMatchingBranch => rfl
    | _ => exact natural.elim

/-- An act without nodes is one that cannot be started. -/
theorem Act.startId?_eq_none {act : Act} : act.startId? = none ↔ act.nodes = [] := by
  unfold startId?
  split
  next id marked =>
    split
    next present =>
      simp only [reduceCtorEq, false_iff]
      intro empty
      simp [hasNode, node?, empty] at present
    next => simp
  next => simp

/-- The events of one start of a player: those of a playback that is under way if the flag is set, and
else those of one that is over. -/
inductive Act.Block (act : Act) (id : PlayerId) : Bool → List Event → Prop where
  | refused (empty : act.nodes = []) : Block act id false [.stopped id act.id (.fault .emptyGraph)]
  | opened {node events} (found : act.startId? = some node)
      (passing : ∀ event ∈ events, event.IsPassing id act.id) :
      Block act id true (.nodeEntered id act.id node :: events)
  | closed {node events reason} (found : act.startId? = some node)
      (passing : ∀ event ∈ events, event.IsPassing id act.id)
      (ends : reason.IsNatural ∨ reason = .stoppedByUser) :
      Block act id false (.nodeEntered id act.id node :: events ++ [.stopped id act.id reason])

/-- Blocks one after the other. The next one begins when those before are closed; the flag is that of
the last one. -/
inductive Act.Protocol (act : Act) (id : PlayerId) : Bool → List (List Event) → Prop where
  | silent : Protocol act id false []
  | next {blocks block playing} (before : Protocol act id false blocks)
      (last : act.Block id playing block) : Protocol act id playing (blocks ++ [block])

section Blocks

variable {act : Act} {id : PlayerId} {playing : Bool} {block events : List Event}
  {blocks : List (List Event)}

namespace Act.Block

theorem tell (under : act.Block id true block)
    (passing : ∀ event ∈ events, event.IsPassing id act.id) : act.Block id true (block ++ events) := by
  cases under with
  | opened found before =>
    refine .opened found ?_
    intro event member
    rcases List.mem_append.1 member with earlier | now
    · exact before event earlier
    · exact passing event now

theorem close {reason : StopReason} (under : act.Block id true block)
    (ends : reason.IsNatural ∨ reason = .stoppedByUser) :
    act.Block id false (block ++ [.stopped id act.id reason]) := by
  cases under with
  | opened found passing => exact .closed found passing ends

theorem proper (told : act.Block id playing block) :
    ∀ event ∈ block, event.player = id ∧ event.IsProper := by
  cases told with
  | refused => simp [Event.player, Event.IsProper, Fault.isTerminal]
  | opened found passing =>
    intro event member
    rcases List.mem_cons.1 member with rfl | later
    · exact ⟨rfl, trivial⟩
    · exact ⟨(passing event later).named, (passing event later).isProper⟩
  | closed found passing ends =>
    intro event member
    rcases List.mem_append.1 member with before | last
    · rcases List.mem_cons.1 before with rfl | later
      · exact ⟨rfl, trivial⟩
      · exact ⟨(passing event later).named, (passing event later).isProper⟩
    · rw [List.mem_singleton.1 last]
      rcases ends with natural | rfl
      · exact ⟨rfl, natural.isProper id act.id⟩
      · exact ⟨rfl, trivial⟩

end Act.Block

theorem Act.Protocol.proper (protocol : act.Protocol id playing blocks) :
    ∀ event ∈ blocks.flatten, event.player = id ∧ event.IsProper := by
  induction protocol with
  | silent => simp
  | next before last ih =>
    intro event member
    rw [List.flatten_append, List.flatten_singleton, List.mem_append] at member
    rcases member with earlier | now
    · exact ih event earlier
    · exact last.proper event now

end Blocks

section Calls

variable {σ ω : Type} [Scheduler σ] {act : Act} {player later : Player} {stage shown : Stage σ ω}
  {first : Step} {taken : List (Moment σ ω)}

/-- A run that goes on with a block leaves it open, or closes it. -/
theorem Player.Drove.block {block : List Event} (drove : player.Drove stage first taken later shown)
    (under : player.act.Block player.id true block) :
    ∃ events, stage.Tells shown events ∧
      player.act.Block player.id later.playing (block ++ events) := by
  obtain ⟨events, tidings, ends | ⟨wait, pauses⟩⟩ := drove.outcome
  · obtain ⟨reason, natural, tells⟩ := ends.told
    refine ⟨_, tells, ?_⟩
    rw [ends.idle, ← List.append_assoc]
    exact (under.tell tidings.passing).close (.inl natural)
  · refine ⟨events, pauses.told, ?_⟩
    rw [pauses.playing]
    exact under.tell tidings.passing

theorem Player.Drove.opens {node : NodeId}
    (drove : player.Drove stage (.enter node) taken later shown) (stepped : taken ≠ [])
    (found : player.act.startId? = some node) :
    ∃ events, stage.Tells shown events ∧ player.act.Block player.id later.playing events := by
  obtain ⟨events, tidings, outcome⟩ := drove.outcome
  obtain ⟨rest, rfl⟩ : ∃ rest, Event.nodeEntered player.id player.act.id node :: rest = events :=
    (tidings.opening.resolve_left fun none => stepped none.1).2
  have passing : ∀ event ∈ rest, event.IsPassing player.id player.act.id := fun event member =>
    tidings.passing event (List.mem_cons_of_mem _ member)
  rcases outcome with ends | ⟨wait, pauses⟩
  · obtain ⟨reason, natural, tells⟩ := ends.told
    exact ⟨_, tells, ends.idle ▸ .closed found passing (.inl natural)⟩
  · exact ⟨_, pauses.told, pauses.playing ▸ .opened found passing⟩

/-- A stop closes the last block if it is open. -/
theorem Act.Protocol.stop {blocks : List (List Event)}
    (protocol : player.act.Protocol player.id player.playing blocks) :
    ∃ closed, closed.flatten = blocks.flatten ++ player.farewell ∧ closed.length = blocks.length ∧
      player.act.Protocol player.id false closed := by
  unfold Player.farewell
  cases playing : player.playing with
  | false =>
    rw [playing] at protocol
    exact ⟨blocks, by simp, rfl, protocol⟩
  | true =>
    rw [playing] at protocol
    cases protocol with
    | next before last => exact ⟨_, by simp, by simp, before.next (last.close (.inr rfl))⟩

theorem Player.Drove.not_userStop (drove : player.Drove stage first taken later shown) :
    ∃ events, stage.Tells shown events ∧ ∀ event ∈ events, ¬event.IsUserStop := by
  obtain ⟨events, tidings, ends | ⟨wait, pauses⟩⟩ := drove.outcome
  · obtain ⟨reason, natural, tells⟩ := ends.told
    refine ⟨_, tells, ?_⟩
    intro event member
    rcases List.mem_append.1 member with earlier | last
    · exact (tidings.passing event earlier).not_userStop
    · rw [List.mem_singleton.1 last]
      rintro userStop
      cases reason with
      | stoppedByUser => exact natural
      | _ => exact userStop
  · exact ⟨events, pauses.told, fun event member => (tidings.passing event member).not_userStop⟩

theorem Player.mem_farewell {event : Event} (member : event ∈ player.farewell) :
    event.player = player.id ∧ player.playing = true := by
  unfold farewell at member
  split at member
  next playing => exact ⟨by rw [List.mem_singleton.1 member]; rfl, playing⟩
  next => simp at member

variable [Output ω] {call : Call}

/-- A playback is reported as stopped by its host only in a call that stops or restarts it. -/
theorem Player.Responds.userStop (responds : player.Responds act stage call later shown) :
    ∃ events, stage.Tells shown events ∧ ∀ event ∈ events, event.IsUserStop →
      event.player = player.id ∧ player.playing = true ∧ ∀ token, call ≠ .timer token := by
  cases responds with
  | ignored => exact ⟨[], .refl stage, by simp⟩
  | stopped playing =>
    refine ⟨_, player.stop_tells stage, ?_⟩
    intro event member _
    obtain ⟨named, -⟩ := player.mem_farewell member
    exact ⟨named, playing, by simp⟩
  | refused =>
    refine ⟨_, (player.stop_tells stage).trans ((player.stop stage).2.tells_emit _), ?_⟩
    intro event member userStop
    rcases List.mem_append.1 member with farewell | refusal
    · obtain ⟨named, playing⟩ := player.mem_farewell farewell
      exact ⟨named, playing, by simp⟩
    · rw [List.mem_singleton.1 refusal] at userStop
      exact userStop.elim
  | begun found succeeds drove =>
    obtain ⟨events, tells, calm⟩ := drove.not_userStop
    refine ⟨_, (player.stop_tells stage).trans tells, ?_⟩
    intro event member userStop
    rcases List.mem_append.1 member with farewell | driven
    · obtain ⟨named, playing⟩ := player.mem_farewell farewell
      exact ⟨named, playing, by simp⟩
    · exact absurd userStop (calm event driven)
  | resumed playing drove =>
    obtain ⟨events, tells, calm⟩ := drove.not_userStop
    exact ⟨events, tells, fun event member userStop => absurd userStop (calm event member)⟩

/-- What a call adds to the blocks of a player: a start begins the next one. -/
theorem Player.Responds.protocol {blocks : List (List Event)}
    (responds : player.Responds player.act stage call later shown)
    (protocol : player.act.Protocol player.id player.playing blocks) :
    ∃ events grown, stage.Tells shown events ∧ grown.flatten = blocks.flatten ++ events ∧
      grown.length = blocks.length + [call].count .start ∧
      player.act.Protocol player.id later.playing grown := by
  cases responds with
  | ignored quiet =>
    refine ⟨[], blocks, .refl stage, by simp, ?_, protocol⟩
    rw [List.count_eq_zero.2 (by simpa using quiet.symm), Nat.add_zero]
  | stopped =>
    obtain ⟨closed, told, length, ended⟩ := protocol.stop
    exact ⟨_, closed, player.stop_tells stage, told, length, player.stop_playing stage ▸ ended⟩
  | refused absent =>
    obtain ⟨closed, told, length, ended⟩ := protocol.stop
    refine ⟨_, _, (player.stop_tells stage).trans ((player.stop stage).2.tells_emit _), ?_, ?_,
      player.stop_playing stage ▸ ended.next (.refused (Act.startId?_eq_none.1 absent))⟩
    · rw [List.flatten_append, told, List.flatten_singleton, List.append_assoc]
    · rw [List.length_append, length]
      rfl
  | begun found succeeds drove =>
    obtain ⟨closed, told, length, ended⟩ := protocol.stop
    obtain ⟨events, tells, block⟩ := drove.opens (drove.stepped (player.restarted_fresh stage))
      ((player.restarted_act stage).symm ▸ found)
    rw [player.restarted_id, player.restarted_act] at block
    refine ⟨_, _, (player.stop_tells stage).trans tells, ?_, ?_, ended.next block⟩
    · rw [List.flatten_append, told, List.flatten_singleton, List.append_assoc]
    · rw [List.length_append, length]
      rfl
  | @resumed wait _ _ _ playing drove =>
    rw [playing] at protocol
    cases protocol with
    | next before last =>
      rw [← player.resumed_id stage wait, ← player.resumed_act stage wait] at last
      obtain ⟨events, tells, block⟩ := drove.block last
      rw [player.resumed_id, player.resumed_act] at block
      exact ⟨events, _, tells, by simp, by simp, before.next block⟩

end Calls

end LightingDesk
