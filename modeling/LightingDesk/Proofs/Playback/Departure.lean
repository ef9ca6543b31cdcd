import LightingDesk.Proofs.Playback.Walk

/-!
Which connection a playback really follows when a node of the graph is done. A condition chooses among
its own connections, but what it hands on is an id, and the first connection of the act that has this id is
followed (`Act.followed?`). That is the chosen one where no connection before it has its id, and always
where ids are distinct; else it may be one of another node (`Session.misled_namesakes`). Nothing else comes
between the choice and the step, however many yields there are: `Session.Run.departs`.
-/

namespace LightingDesk

namespace Act

variable {act : Act} {visit : Visit}

/-- The connection that is followed when a visited node is done. -/
def followed? (act : Act) (visit : Visit) : Option Connection :=
  if act.isCondition visit.node then (act.chosen? visit).bind fun edge => act.connection? edge.id
  else act.chosen? visit

/-- What the choice of a visit says of the connection that is followed. -/
structure HandsOn (act : Act) (visit : Visit) : Prop where
  /-- The choice is made among the connections that leave the node. -/
  leaves : ∀ edge, act.chosen? visit = some edge → edge ∈ act.outgoing visit.node
  /-- The connection that is followed has the id of the chosen one. -/
  id : (act.followed? visit).map Connection.id = (act.chosen? visit).map Connection.id
  /-- It is the first one of the act that has it, if a condition has chosen. -/
  first : act.isCondition visit.node = true → ∀ edge, act.followed? visit = some edge →
    act.connection? edge.id = some edge
  faithful : act.followed? visit = act.chosen? visit ↔ (act.isCondition visit.node = true →
    ∀ edge, act.chosen? visit = some edge → act.connection? edge.id = some edge)
  distinct : (act.connections.map Connection.id).Nodup → act.followed? visit = act.chosen? visit

theorem mem_outgoing_of_chosen? {edge : Connection} (chosen : act.chosen? visit = some edge) :
    edge ∈ act.outgoing visit.node := by
  unfold chosen? at chosen
  split at chosen
  next =>
    split at chosen
    next served =>
      obtain rfl := Option.some.inj chosen
      exact List.mem_of_find?_eq_some served
    next => exact List.mem_of_find?_eq_some chosen
  next => exact List.mem_of_head? chosen

theorem handsOn (act : Act) (visit : Visit) : act.HandsOn visit := by
  cases condition : act.isCondition visit.node with
  | false =>
    have same : act.followed? visit = act.chosen? visit := by simp [followed?, condition]
    exact ⟨fun _ => mem_outgoing_of_chosen?, by rw [same], by simp [condition],
      by simp [same, condition], fun _ => same⟩
  | true =>
    cases chosen : act.chosen? visit with
    | none =>
      have same : act.followed? visit = none := by simp [followed?, condition, chosen]
      exact ⟨by simp [chosen], by rw [same, chosen], by simp [same], by simp [same, chosen],
        fun _ => by rw [same, chosen]⟩
    | some edge =>
      have own := mem_outgoing_of_chosen? chosen
      obtain ⟨first, found, named⟩ := exists_connection? (List.mem_of_mem_filter own)
      have followed : act.followed? visit = some first := by
        simp [followed?, condition, chosen, found]
      refine ⟨fun _ => mem_outgoing_of_chosen?, ?_, ?_, ?_, ?_⟩
      · rw [followed, chosen, Option.map_some, Option.map_some, named]
      · intro _ other same
        obtain rfl := Option.some.inj (followed.symm.trans same)
        rw [named, found]
      · rw [followed, chosen]
        constructor
        · intro same _ other chose
          obtain rfl := Option.some.inj chose
          rw [found, same]
        · intro own
          rw [← found, own condition edge rfl]
      · intro distinct
        rw [followed, chosen, ← found, connection?_of_mem distinct (List.mem_of_mem_filter own)]

theorem followed?_of_outgoing_eq_nil (act : Act) (edges : act.outgoing visit.node = []) :
    act.followed? visit = none := by
  simp [followed?, chosen?, edges]

/-- The route on which a visited node is completed leads along the connection that is followed, and it
tells why there is none. -/
theorem connection?_routeOf (act : Act) (visit : Visit) :
    (act.routeOf visit).connection? act visit.node = act.followed? visit ∧
      ∀ branch, act.routeOf visit = .noMatch branch ↔ branch = branchLabel visit.outcome ∧
        act.outgoing visit.node ≠ [] ∧ act.followed? visit = none := by
  unfold routeOf followed? chosen?
  cases condition : act.isCondition visit.node with
  | false =>
    simp only [Bool.false_eq_true, if_false, Route.connection?, firstOutgoing?_eq_head?]
    simp
  | true =>
    simp only [if_true, Route.ofOutcome]
    by_cases edges : act.outgoing visit.node = []
    · simp [edges, Route.ofBranch, Route.connection?, firstOutgoing?_eq_head?]
    · rw [ofBranch_eq edges]
      have found {edge : Connection} (member : edge ∈ act.outgoing visit.node) :
          act.connection? edge.id ≠ none := by
        obtain ⟨first, found, -⟩ := exists_connection? (List.mem_of_mem_filter member)
        simp [found]
      cases served : (act.outgoing visit.node).find? fun edge =>
          edge.servesBranch (branchLabel visit.outcome) with
      | some edge => simp [Route.connection?, found (List.mem_of_find?_eq_some served)]
      | none =>
        cases standard : (act.outgoing visit.node).find? fun edge => edge.kind == .default with
        | some edge => simp [Route.connection?, found (List.mem_of_find?_eq_some standard)]
        | none => simp [Route.connection?, edges, eq_comm]

/-- What follows when a visited node is done, if it is left along the given connection. -/
structure Departs {σ ω : Type} [Scheduler σ] [Output ω] (act : Act) (visit : Visit)
    (edge? : Option Connection) (moment : Moment σ ω) : Prop where
  /-- The playback goes on at the end of the connection. -/
  leads : ∀ id, (∃ due, moment.due? = some due ∧ due.frames = [] ∧ due.step = .enter id) ↔
    ∃ edge, edge? = some edge ∧ edge.target = id ∧ act.hasNode id = true
  completed : moment.StopsFor .completed ↔ act.outgoing visit.node = []
  dangling : ∀ edge source target, moment.StopsFor (.fault (.danglingEdge edge source target)) ↔
    source = visit.node ∧ ∃ connection, edge? = some connection ∧
      connection.id = edge ∧ connection.target = target ∧ act.hasNode target = false
  noMatch : ∀ source branch, moment.StopsFor (.fault (.noMatchingBranch source branch)) ↔
    source = visit.node ∧ branch = branchLabel visit.outcome ∧
      act.outgoing visit.node ≠ [] ∧ edge? = none
  only : ∀ reason, moment.StopsFor reason → reason = .completed ∨
    (∃ edge source target, reason = .fault (.danglingEdge edge source target)) ∨
    ∃ source branch, reason = .fault (.noMatchingBranch source branch)

end Act

namespace Cursor

section Completion

variable {act : Act} {outcome : Bool} {done : NodeId} {memory : TrackerMemory}
  {generator : Generator} {route : Route}

/-- A node of the graph that is done leads on if its route leads to a node. -/
theorem next_complete_iff {due : Cursor} :
    Next act outcome ⟨[done], memory, generator, .complete route⟩ due ↔
      ∃ edge, route.connection? act done = some edge ∧ act.hasNode edge.target = true ∧
        due = ⟨[], memory, generator, .enter edge.target⟩ := by
  constructor
  · intro next
    cases next with
    | @follow _ _ _ _ edge target chosen found =>
      have node : act.node? edge.target = some target := found
      refine ⟨edge, chosen, ?_, by rw [Act.id_of_node? node]⟩
      rw [← Act.id_of_node? node]
      exact Act.hasNode_target found
  · rintro ⟨edge, chosen, present, rfl⟩
    exact .follow_target chosen present

/-- It ends the playback otherwise, for one of three reasons. -/
theorem stops_complete_iff {reason : StopReason} :
    Stops act ⟨[done], memory, generator, .complete route⟩ reason ↔
      (∃ branch, route = .noMatch branch ∧ reason = .fault (.noMatchingBranch done branch)) ∨
      ((∀ branch, route ≠ .noMatch branch) ∧ route.connection? act done = none ∧
        reason = .completed) ∨
      ∃ edge, route.connection? act done = some edge ∧ act.hasNode edge.target = false ∧
        reason = .fault (.danglingEdge edge.id done edge.target) := by
  have absent (edge : Connection) : act.target? edge = none ↔ act.hasNode edge.target = false := by
    simp [Act.target?, Act.hasNode]
  constructor
  · intro stops
    cases stops with
    | noMatch => exact .inl ⟨_, rfl, rfl⟩
    | completed matched unconnected => exact .inr (.inl ⟨matched, unconnected, rfl⟩)
    | dangling chosen missing => exact .inr (.inr ⟨_, chosen, (absent _).1 missing, rfl⟩)
  · rintro (⟨branch, rfl, rfl⟩ | ⟨matched, unconnected, rfl⟩ | ⟨edge, chosen, missing, rfl⟩)
    · exact .noMatch
    · exact .completed matched unconnected
    · exact .dangling chosen ((absent edge).2 missing)

end Completion

end Cursor

section Departures

variable {σ ω : Type} [Scheduler σ] [Output ω] {act : Act} {token : Token}
  {past : List (Moment σ ω)} {due : Option Cursor}

/-- A visited node that is done is left along the connection that is followed. -/
theorem Moment.Live.goes {moment : Moment σ ω} {memory : TrackerMemory} {generator : Generator}
    {visit : Visit} (live : moment.Live) (plays : moment.player.act = act)
    (standing : moment.cursor = ⟨[visit.node], memory, generator, .complete (act.routeOf visit)⟩) :
    act.Departs visit (act.followed? visit) moment := by
  obtain ⟨along, unmatched⟩ := act.connection?_routeOf visit
  have stops (reason : StopReason) : moment.StopsFor reason ↔
      (∃ branch, act.routeOf visit = .noMatch branch ∧
        reason = .fault (.noMatchingBranch visit.node branch)) ∨
      ((∀ branch, act.routeOf visit ≠ .noMatch branch) ∧ act.followed? visit = none ∧
        reason = .completed) ∨
      ∃ edge, act.followed? visit = some edge ∧ act.hasNode edge.target = false ∧
        reason = .fault (.danglingEdge edge.id visit.node edge.target) := by
    rw [live.stopsFor_iff, plays, standing, Cursor.stops_complete_iff, along]
  have due {cursor : Cursor} (leads : moment.due? = some cursor) :
      ∃ edge, act.followed? visit = some edge ∧ act.hasNode edge.target = true ∧
        cursor = ⟨[], memory, generator, .enter edge.target⟩ := by
    have next := live.next_of_due? leads
    rwa [plays, standing, Cursor.next_complete_iff, along] at next
  constructor
  case leads =>
    intro id
    constructor
    · rintro ⟨cursor, leads, -, enters⟩
      obtain ⟨edge, followed, present, rfl⟩ := due leads
      obtain rfl := Step.enter.inj enters
      exact ⟨edge, followed, rfl, present⟩
    · rintro ⟨edge, followed, rfl, present⟩
      rcases live.cases with ⟨cursor, leads, -, -⟩ | ⟨reason, -, -, stopped⟩
      · obtain ⟨other, again, -, rfl⟩ := due leads
        obtain rfl := Option.some.inj (followed.symm.trans again)
        exact ⟨_, leads, rfl, rfl⟩
      · rcases (stops reason).1 stopped with
          ⟨branch, missed, -⟩ | ⟨-, none, -⟩ | ⟨other, again, absent, -⟩
        · simp [((unmatched branch).1 missed).2.2] at followed
        · simp [none] at followed
        · obtain rfl := Option.some.inj (followed.symm.trans again)
          simp [present] at absent
  case completed =>
    rw [stops]
    constructor
    · rintro (⟨branch, -, other⟩ | ⟨matched, none, -⟩ | ⟨edge, -, -, other⟩)
      · cases other
      · by_contra some
        exact matched _ ((unmatched _).2 ⟨rfl, some, none⟩)
      · cases other
    · intro edges
      refine .inr (.inl ⟨?_, act.followed?_of_outgoing_eq_nil edges, rfl⟩)
      exact fun branch missed => ((unmatched branch).1 missed).2.1 edges
  case dangling =>
    intro id source target
    rw [stops]
    constructor
    · rintro (⟨branch, -, other⟩ | ⟨-, -, other⟩ | ⟨edge, followed, absent, same⟩)
      · cases other
      · cases other
      · simp only [StopReason.fault.injEq, Fault.danglingEdge.injEq] at same
        obtain ⟨rfl, rfl, rfl⟩ := same
        exact ⟨rfl, edge, followed, rfl, rfl, absent⟩
    · rintro ⟨rfl, edge, followed, rfl, rfl, absent⟩
      exact .inr (.inr ⟨edge, followed, absent, rfl⟩)
  case noMatch =>
    intro source branch
    rw [stops]
    constructor
    · rintro (⟨label, missed, same⟩ | ⟨-, -, other⟩ | ⟨edge, -, -, other⟩)
      · simp only [StopReason.fault.injEq, Fault.noMatchingBranch.injEq] at same
        obtain ⟨rfl, rfl⟩ := same
        exact ⟨rfl, (unmatched branch).1 missed⟩
      · cases other
      · cases other
    · rintro ⟨rfl, missed⟩
      exact .inl ⟨branch, (unmatched branch).2 missed, rfl⟩
  case only =>
    intro reason stopped
    rcases (stops reason).1 stopped with ⟨branch, -, rfl⟩ | ⟨-, -, rfl⟩ | ⟨edge, -, -, rfl⟩
    · exact .inr (.inr ⟨_, _, rfl⟩)
    · exact .inl rfl
    · exact .inr (.inl ⟨_, _, _, rfl⟩)

end Departures

/-- In every run of a session, a visited node that is done is left along the first connection of the act
that has the id of the chosen one, and along the chosen one itself unless another one of the id stands
before it. -/
theorem Session.Run.departs {ω : Type} [Output ω] {session : Session ω}
    {log past later : List (Moment TimerQueue ω)} (run : session.Run log) {token : Token}
    {moment : Moment TimerQueue ω} (moments : Moment.playback token log = past ++ moment :: later)
    {done : NodeId} {route : Route} (frames : moment.player.frames = [done])
    (step : moment.step = .complete route) :
    ∃ visit, (Moment.visits past).getLast? = some visit ∧ visit.node = done ∧
      route = moment.player.act.routeOf visit ∧ moment.player.act.HandsOn visit ∧
        moment.player.act.Departs visit (moment.player.act.followed? visit) moment := by
  obtain ⟨act, due, playback⟩ := (run.playback token).resolve_left (by simp [moments])
  rw [moments] at playback
  obtain ⟨-, -, plays, -, live⟩ := playback.after.append_singleton
  obtain ⟨visit, last, rfl, rfl, standing⟩ := playback.exists_visit frames step
  subst plays
  exact ⟨visit, last, rfl, rfl, moment.player.act.handsOn visit, live.goes rfl standing⟩

/-- A gate that nothing opens, with one way to leave it; another way of the same id leads farther. -/
def Act.namesakes : Act :=
  { Act.empty ⟨"act"⟩ "namesakes" .epoch with
    nodes := [⟨⟨"gate"⟩, "gate", .condition ⟨.compare (.midi 0 0) .greater 0⟩, .origin⟩,
      ⟨⟨"near"⟩, "near", .wait ⟨5⟩, .origin⟩, ⟨⟨"far"⟩, "far", .wait ⟨5⟩, .origin⟩]
    connections := [⟨⟨"way"⟩, ⟨"near"⟩, ⟨"far"⟩, .default, none, none⟩,
      ⟨⟨"way"⟩, ⟨"gate"⟩, ⟨"near"⟩, .default, none, none⟩] }

namespace Session

/-- The moment at which the gate is left, and what follows. -/
theorem namesakes_played : ∃ session : Session Universe, ∃ log entered left arrived,
    session.Run log ∧ Moment.playback ⟨⟨1⟩, 1⟩ log = [entered] ++ left :: [arrived] ∧
      left.player.act = .namesakes ∧ left.player.frames = [⟨"gate"⟩] ∧
      left.step = .complete (Act.namesakes.routeOf ⟨⟨"gate"⟩, false⟩) ∧
      Moment.visits [entered] = [⟨⟨"gate"⟩, false⟩] ∧
      left.due?.map (fun due => (due.frames, due.step)) = some ([], .enter ⟨"far"⟩) := by
  have played : ((bare 8).perform (.play .namesakes)).isSome = true := by decide
  obtain ⟨session, answer⟩ := Option.isSome_iff_exists.1 played
  have run := Run.perform (.bare 8) _ answer
  rw [List.nil_append] at run
  have course : (Moment.playback ⟨⟨1⟩, 1⟩ ((bare 8).moments (.play .namesakes))).map
        (fun moment => (Moment.visits [moment], moment.player.frames, moment.step,
          moment.due?.map fun due => (due.frames, due.step))) =
      [([⟨⟨"gate"⟩, false⟩], [], .enter ⟨"gate"⟩,
          some ([⟨"gate"⟩], .complete (.along ⟨"way"⟩))),
        ([], [⟨"gate"⟩], .complete (.along ⟨"way"⟩), some ([], .enter ⟨"far"⟩)),
        ([⟨⟨"far"⟩, false⟩], [], .enter ⟨"far"⟩, some ([⟨"far"⟩], .complete .first))] := by
    decide
  have acts : (Moment.playback ⟨⟨1⟩, 1⟩ ((bare 8).moments (.play .namesakes))).map
        (fun moment => moment.player.act) = [.namesakes, .namesakes, .namesakes] := by rfl
  have three := congrArg List.length course
  rw [List.length_map] at three
  obtain ⟨entered, left, arrived, moments⟩ := List.length_eq_three.1 three
  rw [moments] at course acts
  simp only [List.map_cons, List.cons.injEq, Prod.mk.injEq] at course acts
  obtain ⟨⟨visits, -⟩, ⟨-, frames, step, due⟩, -⟩ := course
  exact ⟨session, _, entered, left, arrived, run, moments, acts.2.1, frames, step, visits, due⟩

/-- The gate is left along the way of another node. -/
theorem departs_namesakes : ∃ session : Session Universe, ∃ log past moment later,
    session.Run log ∧ Moment.playback ⟨⟨1⟩, 1⟩ log = past ++ moment :: later ∧
      moment.player.act = .namesakes ∧ moment.player.frames = [⟨"gate"⟩] ∧
      Act.namesakes.followed? ⟨⟨"gate"⟩, false⟩ =
        some ⟨⟨"way"⟩, ⟨"near"⟩, ⟨"far"⟩, .default, none, none⟩ ∧
      Act.namesakes.Departs ⟨⟨"gate"⟩, false⟩
        (Act.namesakes.followed? ⟨⟨"gate"⟩, false⟩) moment := by
  obtain ⟨session, log, entered, left, arrived, run, moments, plays, frames, step, visits, -⟩ :=
    namesakes_played
  obtain ⟨visit, last, -, -, -, departs⟩ := run.departs moments frames step
  rw [visits, List.getLast?_singleton] at last
  obtain rfl := Option.some.inj last
  rw [plays] at departs
  exact ⟨session, log, [entered], left, [arrived], run, moments, plays, frames, by decide, departs⟩

/-- A gate with one way to leave it, which leads near, may be left for far. -/
theorem misled_namesakes : ∃ session : Session Universe, ∃ log past moment later visit edge,
    session.Run log ∧ Moment.playback ⟨⟨1⟩, 1⟩ log = past ++ moment :: later ∧
      (Moment.visits past).getLast? = some visit ∧ moment.player.frames = [visit.node] ∧
      moment.step = .complete (moment.player.act.routeOf visit) ∧
      moment.player.act.isCondition visit.node = true ∧
      moment.player.act.chosen? visit = some edge ∧
      moment.player.act.outgoing visit.node = [edge] ∧ moment.player.act.hasNode edge.target = true ∧
      (∃ due, moment.due? = some due ∧ due.frames = [] ∧ due.step = .enter ⟨"far"⟩ ∧
        edge.target ≠ ⟨"far"⟩) ∧
      ¬moment.player.act.Departs visit (some edge) moment := by
  obtain ⟨session, log, entered, left, arrived, run, moments, plays, frames, step, visits, leads⟩ :=
    namesakes_played
  obtain ⟨due, found, same⟩ := Option.map_eq_some_iff.1 leads
  obtain ⟨outer, enters⟩ := Prod.mk.inj same
  refine ⟨session, log, [entered], left, [arrived], ⟨⟨"gate"⟩, false⟩,
    ⟨⟨"way"⟩, ⟨"gate"⟩, ⟨"near"⟩, .default, none, none⟩, run, moments, by rw [visits]; rfl, frames,
    ?_, ?_, ?_, ?_, ?_, ⟨due, found, outer, enters, by decide⟩, ?_⟩
  · rw [plays]
    exact step
  · rw [plays]
    decide
  · rw [plays]
    decide
  · rw [plays]
    decide
  · rw [plays]
    decide
  · intro departs
    obtain ⟨edge, chosen, target, -⟩ := (departs.leads ⟨"far"⟩).1 ⟨due, found, outer, enters⟩
    obtain rfl := Option.some.inj chosen
    exact absurd target (by decide)

end Session

end LightingDesk
