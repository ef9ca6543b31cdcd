import LightingDesk.Dmx.Universe
import LightingDesk.Proofs.Playback.Report
import LightingDesk.Proofs.Playback.Visit

/-!
Whatever timers, yields and trackers do to a playback, the nodes that it reaches in the graph are a
walk along chosen connections: `Session.Run.walks`. A cursor with frames knows the visit that it is in
(`Cursor.Dwells`), a cursor without them the node to which the walk leads next (`Cursor.Stands`), and every
step keeps this.
-/

namespace LightingDesk

namespace Cursor

/-- The visits that a step adds: a node that is entered when there are no frames. -/
def visits (cursor : Cursor) (outcome : Bool) : List Visit :=
  if cursor.frames = [] then cursor.step.entering.map fun node => ⟨node, outcome⟩ else []

/-- Where a playback stands in the walk of its visits: outside of all nodes, before the next one, or
inside the last one, however deep. -/
inductive Stands (act : Act) (visits : List Visit) : Cursor → Prop where
  | outside {memory generator id} (reaches : act.Reaches visits id) :
      Stands act visits ⟨[], memory, generator, .enter id⟩
  | inside {frames memory generator step visit} (last : visits.getLast? = some visit)
      (bottom : frames.getLast? = some visit.node)
      (routed : ∀ route, frames = [visit.node] → step = .complete route → route = act.routeOf visit) :
      Stands act visits ⟨frames, memory, generator, step⟩

/-- A cursor inside of a visit knows which one it is, and on which route the visit will be left. -/
def Dwells (act : Act) (visits : List Visit) (cursor : Cursor) : Prop :=
  cursor.frames ≠ [] → ∃ visit, visits.getLast? = some visit ∧
    cursor.frames.getLast? = some visit.node ∧
      ∀ route, cursor.frames = [visit.node] → cursor.step = .complete route →
        route = act.routeOf visit

namespace Dwells

variable {act : Act} {visits : List Visit} {frames frames' : List NodeId}
  {memory memory' : TrackerMemory} {generator generator' : Generator} {step step' : Step}
  {id : NodeId} {outcome : Bool}

/-- A node is entered: in the graph it is the next visit, on a tracker it changes nothing. -/
theorem enter (dwells : Dwells act visits ⟨frames, memory, generator, .enter id⟩)
    (routed : ∀ route, step' = .complete route → route = act.routeOf ⟨id, outcome⟩) :
    Dwells act (visits ++ Cursor.visits ⟨frames, memory, generator, .enter id⟩ outcome)
      ⟨id :: frames, memory, generator, step'⟩ := by
  intro _
  by_cases outer : frames = []
  · subst outer
    refine ⟨⟨id, outcome⟩, by simp [Cursor.visits, Step.entering], rfl, ?_⟩
    exact fun route _ due => routed route due
  · obtain ⟨visit, last, bottom, -⟩ := dwells outer
    have same : Cursor.visits ⟨frames, memory, generator, .enter id⟩ outcome = [] := if_neg outer
    rw [same, List.append_nil]
    refine ⟨visit, last, ?_, ?_⟩
    · rw [List.getLast?_cons]
      simp only at bottom
      rw [bottom]
      rfl
    · intro route single
      exact absurd (List.cons.inj single).2 outer

/-- Inside of a visit a step leads to another one inside of it; only a tracker completes it again. -/
theorem stay (dwells : Dwells act visits ⟨frames, memory, generator, step⟩) (inner : frames ≠ [])
    (bottom : frames'.getLast? = frames.getLast?)
    (routed : ∀ node route, frames' = [node] → step' = .complete route →
      route = .first ∧ ∃ payload, act.tracker? node = some payload) :
    Dwells act (visits ++ Cursor.visits ⟨frames, memory, generator, step⟩ outcome)
      ⟨frames', memory', generator', step'⟩ := by
  intro _
  obtain ⟨visit, last, deepest, -⟩ := dwells inner
  have same : Cursor.visits ⟨frames, memory, generator, step⟩ outcome = [] := if_neg inner
  rw [same, List.append_nil]
  refine ⟨visit, last, bottom.trans deepest, ?_⟩
  intro route single due
  obtain ⟨rfl, payload, tracker⟩ := routed _ _ single due
  exact (Act.routeOf_of_tracker? tracker).symm

/-- A tracker that is on top and gives up is itself what a visit completes. -/
theorem giveUp {payload : TrackerPayload} (fits : Fits act ⟨frames, memory, generator, .trackerStep id⟩)
    (dwells : Dwells act visits ⟨frames, memory, generator, .trackerStep id⟩)
    (tracker : act.tracker? id = some payload) :
    Dwells act (visits ++ Cursor.visits ⟨frames, memory, generator, .trackerStep id⟩ outcome)
      ⟨frames, memory', generator, .complete .first⟩ := by
  refine dwells.stay fits.ne_nil_of_trackerStep rfl ?_
  intro node route single due
  obtain ⟨below, rfl⟩ := fits.exists_below
  rw [Step.complete.injEq] at due
  exact ⟨due.symm, payload, (List.cons.inj single).1 ▸ tracker⟩

theorem next {before after : Cursor} (fits : Fits act before) (dwells : Dwells act visits before)
    (next : Next act outcome before after) :
    Dwells act (visits ++ before.visits outcome) after := by
  cases next with
  | plain present notCondition =>
    refine dwells.enter ?_
    intro route due
    rw [Step.complete.injEq] at due
    simp [← due, Act.routeOf, notCondition]
  | condition condition =>
    refine dwells.enter ?_
    intro route due
    rw [Step.complete.injEq] at due
    simp [← due, Act.routeOf, condition]
  | tracker => exact dwells.enter (by simp)
  | child => exact dwells.stay fits.ne_nil_of_trackerStep rfl (by simp)
  | childless tracker | missing tracker | busy tracker => exact dwells.giveUp fits tracker
  | moveOn => exact dwells.stay (by simp) (by simp) (by simp)
  | finished tracker =>
    refine dwells.stay (by simp) (by simp) ?_
    intro node route single due
    rw [Step.complete.injEq] at due
    exact ⟨due.symm, _, (List.cons.inj single).1 ▸ tracker⟩
  | follow => exact fun outer => absurd rfl outer
  | strayChild stray => exact absurd stray fits.not_strayChild
  | strayStep stray => exact absurd stray fits.tracker?_ne_none

/-- Inside of a visit this is all that there is to know. -/
theorem stands {cursor : Cursor} (dwells : Dwells act visits cursor) (inner : cursor.frames ≠ []) :
    Stands act visits cursor := by
  obtain ⟨visit, last, bottom, routed⟩ := dwells inner
  exact .inside last bottom routed

end Dwells

namespace Stands

variable {act : Act} {visits : List Visit} {outcome : Bool}

theorem dwells {cursor : Cursor} (stands : Stands act visits cursor) : Dwells act visits cursor := by
  intro inner
  cases stands with
  | outside => exact absurd rfl inner
  | inside last bottom routed => exact ⟨_, last, bottom, routed⟩

theorem next {before after : Cursor} (distinct : (act.connections.map Connection.id).Nodup)
    (fits : Fits act before) (stands : Stands act visits before)
    (next : Next act outcome before after) :
    Stands act (visits ++ before.visits outcome) after := by
  have dwells := stands.dwells.next fits next
  cases next with
  | @follow done memory generator route edge target chosen found =>
    have walked : Next act outcome ⟨[done], memory, generator, .complete route⟩
        ⟨[], memory, generator, .enter target.id⟩ := .follow chosen found
    cases stands with
    | @inside _ _ _ _ visit last bottom routed =>
      obtain rfl : done = visit.node := by simpa using bottom
      obtain rfl := routed route rfl rfl
      obtain ⟨id, leads, same⟩ := (next_routeOf_iff distinct visit).1 walked
      rw [Cursor.mk.injEq, Step.enter.injEq] at same
      refine .outside ?_
      simpa [Act.Reaches, Cursor.visits, last, same.2.2.2] using leads
  | child | childless | missing | busy | strayStep => exact dwells.stands fits.ne_nil_of_trackerStep
  | plain | condition | tracker | moveOn | finished | strayChild =>
    exact dwells.stands (List.cons_ne_nil _ _)

/-- The visits stay a walk, and there is one from the first step on. -/
theorem walk {cursor : Cursor} (stands : Stands act visits cursor) (walk : act.Walk visits)
    (outcome : Bool) :
    act.Walk (visits ++ cursor.visits outcome) ∧ visits ++ cursor.visits outcome ≠ [] := by
  cases stands with
  | outside reaches => exact ⟨walk.append reaches outcome, by simp [Cursor.visits, Step.entering]⟩
  | @inside frames memory generator step _ last bottom =>
    have inner : frames ≠ [] := by
      rintro rfl
      simp at bottom
    have same : Cursor.visits ⟨frames, memory, generator, step⟩ outcome = [] := if_neg inner
    rw [same, List.append_nil]
    refine ⟨walk, ?_⟩
    rintro rfl
    simp at last

end Stands

end Cursor

section Visits

variable {σ ω : Type} [Scheduler σ] [Output ω] {act : Act} {token : Token}
  {past : List (Moment σ ω)} {due : Option Cursor}

/-- The nodes that are reported as entered when there are no frames. -/
def Moment.visits (moments : List (Moment σ ω)) : List Visit :=
  moments.flatMap fun moment =>
    if moment.player.frames = [] then moment.entered.map fun node => ⟨node, moment.outcome⟩ else []

theorem Moment.Live.visits_append {moment : Moment σ ω} (live : moment.Live)
    (past : List (Moment σ ω)) :
    Moment.visits (past ++ [moment]) = Moment.visits past ++ moment.cursor.visits moment.outcome := by
  rw [Moment.visits, List.flatMap_append, List.flatMap_singleton, live.entered_eq]
  rfl

theorem Playback.dwells (playback : Playback act token past due) :
    ∀ cursor, due = some cursor → cursor.Dwells act (Moment.visits past) := by
  induction playback with
  | start found generator =>
    intro cursor standing
    obtain rfl := Option.some.inj standing
    exact fun outer => absurd rfl outer
  | @take past moment before plays named playing free answered ih =>
    have live : moment.Live := ⟨playing, free, answered, plays ▸ before.fits⟩
    rw [live.visits_append]
    intro cursor leads
    exact (ih _ rfl).next before.fits (plays ▸ live.next_of_due? leads)

/-- A graph node that is done is that of the last visit, and it is left as this visit calls for. -/
theorem Playback.exists_visit {moment : Moment σ ω} {later : List (Moment σ ω)}
    (playback : Playback act token (past ++ moment :: later) due) {done : NodeId} {route : Route}
    (frames : moment.player.frames = [done]) (step : moment.step = .complete route) :
    ∃ visit, (Moment.visits past).getLast? = some visit ∧ visit.node = done ∧
      route = act.routeOf visit ∧ moment.cursor =
        ⟨[done], moment.player.memory, moment.player.generator, .complete route⟩ := by
  have standing : moment.cursor =
      ⟨[done], moment.player.memory, moment.player.generator, .complete route⟩ := by
    rw [Moment.cursor, Player.cursor, frames, step]
  have dwells := playback.before.dwells _ rfl
  rw [standing] at dwells
  obtain ⟨visit, last, bottom, routed⟩ := dwells (List.cons_ne_nil _ _)
  obtain rfl : done = visit.node := by simpa using bottom
  exact ⟨visit, last, rfl, routed route rfl rfl, standing⟩

theorem Playback.visits_walk (playback : Playback act token past due)
    (distinct : (act.connections.map Connection.id).Nodup) :
    act.Walk (Moment.visits past) ∧ (past ≠ [] → Moment.visits past ≠ []) ∧
      ∀ cursor, due = some cursor → cursor.Stands act (Moment.visits past) := by
  induction playback with
  | start found generator =>
    refine ⟨.nil, fun some => absurd rfl some, ?_⟩
    intro cursor standing
    obtain rfl := Option.some.inj standing
    exact .outside found
  | @take past moment before plays named playing free answered ih =>
    have live : moment.Live := ⟨playing, free, answered, plays ▸ before.fits⟩
    have stands := ih.2.2 _ rfl
    obtain ⟨walk, some⟩ := stands.walk ih.1 moment.outcome
    rw [live.visits_append]
    refine ⟨walk, fun _ => some, ?_⟩
    intro cursor leads
    exact stands.next distinct before.fits (plays ▸ live.next_of_due? leads)

/-- What comes of a visited node that is done. -/
theorem Moment.Live.leaves {moment : Moment σ ω} {memory : TrackerMemory} {generator : Generator}
    {visit : Visit} (live : moment.Live) (distinct : (act.connections.map Connection.id).Nodup)
    (plays : moment.player.act = act)
    (standing : moment.cursor = ⟨[visit.node], memory, generator, .complete (act.routeOf visit)⟩) :
    act.Ends visit moment.StopsFor ∧
      ∀ id, (∃ due, moment.due? = some due ∧ due.frames = [] ∧ due.step = .enter id) ↔
        act.LeadsOn visit id := by
  have stops (reason : StopReason) :
      moment.StopsFor reason ↔ moment.cursor.Stops moment.player.act reason := live.stopsFor_iff
  have cases := live.cases
  rw [plays, standing] at stops cases
  refine ⟨?_, ?_⟩
  · have same : moment.StopsFor = Cursor.Stops act _ := funext fun reason => propext (stops reason)
    exact same ▸ Cursor.ends_routeOf distinct visit
  · intro id
    constructor
    · rintro ⟨due, leads, -, enters⟩
      rcases cases with ⟨found, same, next, -⟩ | ⟨reason, none, -⟩
      · obtain rfl := Option.some.inj (leads.symm.trans same)
        obtain ⟨reached, leadsOn, rfl⟩ := (Cursor.next_routeOf_iff distinct visit).1 next
        exact Step.enter.inj enters ▸ leadsOn
      · rw [leads] at none
        simp at none
    · intro leadsOn
      rcases cases with ⟨found, same, next, -⟩ | ⟨reason, -, stopped, -⟩
      · obtain ⟨reached, again, rfl⟩ := (Cursor.next_routeOf_iff distinct visit).1 next
        exact ⟨_, same, rfl, by rw [leadsOn.unique again]⟩
      · have next : Cursor.Next act true
            ⟨[visit.node], memory, generator, .complete (act.routeOf visit)⟩
            ⟨[], memory, generator, .enter id⟩ :=
          (Cursor.next_routeOf_iff distinct visit).2 ⟨id, leadsOn, rfl⟩
        exact absurd stopped next.not_stops

/-- What holds of the steps of one playback and of the nodes that it reaches in the graph. -/
structure Act.Walked (act : Act) (moments : List (Moment σ ω)) : Prop where
  plays : ∀ moment ∈ moments, moment.player.act = act
  /-- A step without frames enters one node and reports it. -/
  enters : ∀ moment ∈ moments, moment.player.frames = [] →
    ∃ id, moment.step = .enter id ∧ moment.entered = [id]
  nonempty : Moment.visits moments ≠ []
  walk : act.Walk (Moment.visits moments)
  /-- A step that does not lead on to another one ends the playback and says why. -/
  stops : ∀ moment ∈ moments, moment.due? = none ↔ ∃ reason, moment.StopsFor reason
  /-- The playback ends of itself only in its last step, when a visited node is done. -/
  last : ∀ past moment later, moments = past ++ moment :: later →
    ∀ reason, moment.StopsFor reason →
      later = [] ∧ ∃ done route, moment.player.frames = [done] ∧ moment.step = .complete route
  /-- When a visited node is done, the graph says whether and why the playback ends, or else where it
  goes on. -/
  leaves : ∀ past moment later, moments = past ++ moment :: later →
    ∀ done route, moment.player.frames = [done] → moment.step = .complete route →
      ∃ visit, (Moment.visits past).getLast? = some visit ∧ visit.node = done ∧
        act.Ends visit moment.StopsFor ∧
        ∀ id, (∃ due, moment.due? = some due ∧ due.frames = [] ∧ due.step = .enter id) ↔
          act.LeadsOn visit id

theorem Playback.walked {moment : Moment σ ω} {rest : List (Moment σ ω)}
    (playback : Playback act token (moment :: rest) due)
    (distinct : (act.connections.map Connection.id).Nodup) : act.Walked (moment :: rest) := by
  obtain ⟨walk, some, -⟩ := playback.visits_walk distinct
  refine ⟨fun moment member => (playback.live member).2.1, ?_, some (List.cons_ne_nil _ _), walk,
    ?_, ?_, ?_⟩
  · intro moment member outer
    obtain ⟨live, -⟩ := playback.live member
    obtain ⟨id, step⟩ := live.fits.enters outer
    have entering : moment.step = .enter id := step
    exact ⟨id, entering, by rw [live.entered_eq, entering]; rfl⟩
  · intro moment member
    obtain ⟨live, -⟩ := playback.live member
    rcases live.cases with ⟨due, leads, -, never⟩ | ⟨reason, none, -, stopped⟩
    · simp [leads, never]
    · exact ⟨fun _ => ⟨reason, stopped⟩, fun _ => none⟩
  · intro past moment later split reason stopped
    rw [split] at playback
    obtain ⟨-, -, -, -, live⟩ := playback.after.append_singleton
    have none := live.due?_eq_none_of_stopsFor stopped
    refine ⟨?_, live.fits.last_frame (live.stopsFor_iff.1 stopped)⟩
    cases later with
    | nil => rfl
    | cons next later =>
      rw [playback.leads] at none
      simp at none
  · intro past moment later split done route frames step
    rw [split] at playback
    obtain ⟨-, -, plays, -, live⟩ := playback.after.append_singleton
    obtain ⟨visit, last, rfl, rfl, standing⟩ := playback.exists_visit frames step
    exact ⟨visit, last, rfl, live.leaves distinct plays standing⟩

end Visits

/-- The nodes that one playback reaches in the graph are a walk along chosen connections, however its
steps are cut into runs, and the graph alone decides how it ends. -/
theorem Session.Run.walks {ω : Type} [Output ω] {session : Session ω}
    {log : List (Moment TimerQueue ω)} (run : session.Run log) {token : Token}
    {first : Moment TimerQueue ω} {rest : List (Moment TimerQueue ω)} {act : Act}
    (moments : Moment.playback token log = first :: rest) (plays : first.player.act = act)
    (distinct : (act.connections.map Connection.id).Nodup) :
    session.events.filterMap Event.entered? = log.flatMap Moment.entered ∧
      act.Walked (first :: rest) := by
  obtain ⟨other, due, playback⟩ := (run.playback token).resolve_left (by simp [moments])
  rw [moments] at playback
  obtain rfl : other = act := (playback.live List.mem_cons_self).2.1.symm.trans plays
  exact ⟨run.events_entered, playback.walked distinct⟩

/-- Two nodes, one after the other. -/
def Act.relay : Act :=
  { Act.empty ⟨"act"⟩ "relay" .epoch with
    nodes := [⟨⟨"first"⟩, "first", .scene (.ofScene ""), .origin⟩,
      ⟨⟨"second"⟩, "second", .wait ⟨5⟩, .origin⟩]
    connections := [⟨⟨"edge"⟩, ⟨"first"⟩, ⟨"second"⟩, .default, none, none⟩] }

/-- A scene, a gate that nothing opens, and what waits behind it. Of the ways that leave the gate the
last one is for a gate that is shut, and a default one stands in front of it. -/
def Act.junction : Act :=
  { Act.empty ⟨"act"⟩ "junction" .epoch with
    nodes := [⟨⟨"first"⟩, "first", .scene (.ofScene ""), .origin⟩,
      ⟨⟨"gate"⟩, "gate", .condition ⟨.compare (.midi 0 0) .greater 0⟩, .origin⟩,
      ⟨⟨"last"⟩, "last", .wait ⟨5⟩, .origin⟩]
    connections := [⟨⟨"on"⟩, ⟨"first"⟩, ⟨"gate"⟩, .default, none, none⟩,
      ⟨⟨"open"⟩, ⟨"gate"⟩, ⟨"first"⟩, .conditional, some "true", none⟩,
      ⟨⟨"back"⟩, ⟨"gate"⟩, ⟨"first"⟩, .default, none, none⟩,
      ⟨⟨"shut"⟩, ⟨"gate"⟩, ⟨"last"⟩, .conditional, some " False ", none⟩] }

theorem Session.walks_junction :
    ∃ session : Session Universe, ∃ log, session.Run log ∧
      Moment.visits (Moment.playback ⟨⟨1⟩, 1⟩ log) =
        [⟨⟨"first"⟩, false⟩, ⟨⟨"gate"⟩, false⟩, ⟨⟨"last"⟩, false⟩] ∧
      Act.junction.Walk (Moment.visits (Moment.playback ⟨⟨1⟩, 1⟩ log)) := by
  have played : ((Session.bare 8).perform (.play .junction)).isSome = true := by decide
  obtain ⟨session, answer⟩ := Option.isSome_iff_exists.1 played
  have run := Session.Run.perform (.bare 8) _ answer
  rw [List.nil_append] at run
  have visited : Moment.visits (Moment.playback ⟨⟨1⟩, 1⟩
      ((Session.bare 8).moments (.play .junction))) =
        [⟨⟨"first"⟩, false⟩, ⟨⟨"gate"⟩, false⟩, ⟨⟨"last"⟩, false⟩] := by decide
  have acts : (Moment.playback ⟨⟨1⟩, 1⟩ ((Session.bare 8).moments (.play .junction))).map
      (fun moment => moment.player.act) =
        [.junction, .junction, .junction, .junction, .junction] := by rfl
  refine ⟨session, _, run, visited, ?_⟩
  cases moments : Moment.playback ⟨⟨1⟩, 1⟩ ((Session.bare 8).moments (.play .junction)) with
  | nil => exact .nil
  | cons first rest =>
    rw [moments, List.map_cons] at acts
    exact (run.walks moments (List.cons.inj acts).1 (by decide)).2.walk

end LightingDesk
