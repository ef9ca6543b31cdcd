import LightingDesk.Proofs.Act.Review
import LightingDesk.Proofs.Playback.Overflow
import LightingDesk.Proofs.Playback.Utterance
import LightingDesk.Proofs.Tracker

/-!
A review tells beforehand of the faults of an act: whatever players of the act report of its graph, its
trackers and its conditions, there is a finding that names it (`Act.review_forewarns`).
-/

namespace LightingDesk

/-- The fault that an event tells of. -/
def Event.fault? : Event → Option Fault
  | .stopped _ _ (.fault fault) => some fault
  | .warning _ _ fault => some fault
  | _ => none

/-- The event tells of no fault, or warns of one that only playing shows. -/
def Event.IsExpected : Event → Prop
  | .stopped _ _ (.fault _) => False
  | .warning _ _ (.missingScene ..) | .warning _ _ (.trackerCycle ..) => True
  | .warning .. => False
  | _ => True

namespace Act

/-- A review has a finding on what the fault is about, if it is one that a review can find. -/
def Foretells (act : Act) : Fault → Prop
  | .emptyGraph => .empty ∈ act.review
  | .danglingEdge connection _ _ => ∃ missing, .danglingConnection connection missing ∈ act.review
  | .noMatchingBranch node _ => .conditionWithoutDefault node ∈ act.review
  | .emptyTracker node => .emptyTracker node ∈ act.review
  | .missingTrackerChild node child => .missingTrackerChild node child ∈ act.review
  | .missingScene .. | .trackerCycle .. => True

/-- Nothing that a review finds is more than an information. -/
def IsClean (act : Act) : Prop := ∀ issue ∈ act.review, issue.severity = .info

variable {act : Act} {id : PlayerId} {event : Event}

/-! ### Findings on nodes and connections -/

theorem foretells_dangling {edge : Connection} {source : NodeId} (nonempty : act.nodes ≠ [])
    (member : edge ∈ act.connections) (absent : act.target? edge = none) :
    act.Foretells (.danglingEdge edge.id source edge.target) := by
  have missing : act.hasNode edge.target = false := by
    rw [hasNode, ← target?, absent]
    rfl
  have found : ∃ missing, .danglingConnection edge.id missing ∈ act.danglingIssues := by
    simp only [danglingIssues, List.mem_filterMap]
    cases source : act.hasNode edge.source with
    | false => exact ⟨edge.source, edge, member, by simp [source]⟩
    | true => exact ⟨edge.target, edge, member, by simp [source, missing]⟩
  obtain ⟨missing, listed⟩ := found
  exact ⟨missing, (mem_review nonempty).2 (.inl listed)⟩

theorem exists_node_of_isCondition {node : NodeId} (condition : act.isCondition node = true) :
    ∃ found ∈ act.nodes, found.id = node ∧ ∃ payload, found.kind = .condition payload := by
  unfold isCondition at condition
  cases found : act.node? node with
  | none => simp [found] at condition
  | some other =>
    refine ⟨other, mem_of_node? found, id_of_node? found, ?_⟩
    cases kind : other.kind with
    | condition payload => exact ⟨payload, rfl⟩
    | _ => simp [found, kind, NodeKind.isCondition] at condition

theorem foretells_noMatch {node : NodeId} {outcome : Bool} {branch : String}
    (nonempty : act.nodes ≠ []) (route : .noMatch branch = act.routeOf ⟨node, outcome⟩) :
    act.Foretells (.noMatchingBranch node branch) := by
  unfold routeOf at route
  split at route
  next condition =>
    rw [Route.ofOutcome] at route
    have connected : act.outgoing node ≠ [] := by
      intro none
      simp [Route.ofBranch, none] at route
    rw [ofBranch_eq connected] at route
    have unmatched : (act.outgoing node).find? (fun edge => edge.kind == .default) = none := by
      split at route
      next => cases route
      next =>
        split at route
        next => cases route
        next absent => exact absent
    obtain ⟨found, member, rfl, payload, kind⟩ := exists_node_of_isCondition condition
    have default : (act.outgoing found.id).any (fun edge => edge.kind == .default) = false := by
      rw [List.any_eq_false]
      exact List.find?_eq_none.1 unmatched
    have listed : .conditionWithoutDefault found.id ∈ act.nodeIssues found := by
      simp [nodeIssues, kind, default, connected]
    exact (mem_review nonempty).2 (.inr (.inr (.inl ⟨found, member, listed⟩)))
  next => cases route

theorem foretells_emptyTracker {node : NodeId} {payload : TrackerPayload} (nonempty : act.nodes ≠ [])
    (tracker : act.tracker? node = some payload) (childless : payload.children = []) :
    act.Foretells (.emptyTracker node) := by
  obtain ⟨found, member, rfl, kind⟩ := exists_node_of_tracker? tracker
  have listed : .emptyTracker found.id ∈ act.nodeIssues found := by
    simp [nodeIssues, kind, childless]
  exact (mem_review nonempty).2 (.inr (.inr (.inl ⟨found, member, listed⟩)))

theorem foretells_missingChild {node child : NodeId} {payload : TrackerPayload}
    (nonempty : act.nodes ≠ []) (tracker : act.tracker? node = some payload)
    (listed : child ∈ payload.children) (absent : act.hasNode child = false) :
    act.Foretells (.missingTrackerChild node child) := by
  obtain ⟨found, member, rfl, kind⟩ := exists_node_of_tracker? tracker
  have reported : .missingTrackerChild found.id child ∈ act.nodeIssues found := by
    simp [nodeIssues, kind, listed, absent]
  exact (mem_review nonempty).2 (.inr (.inr (.inl ⟨found, member, reported⟩)))

/-! ### What players report -/

theorem nodes_ne_nil_of_arises {cursor : Cursor} (arises : cursor.Arises act) : act.nodes ≠ [] := by
  induction arises with
  | start found =>
    intro empty
    simp [startId?_eq_none.2 empty] at found
  | next _ _ ih => exact ih

theorem foretells_of_stops {cursor : Cursor} {fault : Fault} (arises : cursor.Arises act)
    (stops : cursor.Stops act (.fault fault)) : act.Foretells fault := by
  have nonempty := nodes_ne_nil_of_arises arises
  cases stops with
  | noMatch =>
    obtain ⟨outcome, route⟩ := arises.routed _ _ rfl rfl
    exact foretells_noMatch nonempty route
  | @dangling _ _ _ route edge chosen absent =>
    exact foretells_dangling nonempty (mem_of_connection? chosen) absent

/-- Every fault that a player reports is foretold. -/
theorem Admits.foretold {fault : Fault} (admits : act.Admits id event)
    (tells : event.fault? = some fault) : act.Foretells fault := by
  cases admits with
  | dismissed => cases tells
  | refused empty =>
    obtain rfl := Option.some.inj tells
    change .empty ∈ act.review
    rw [review_of_nodes_eq_nil empty]
    exact List.mem_singleton_self _
  | uttered arises utters =>
    have nonempty := nodes_ne_nil_of_arises arises
    cases utters with
    | entered => cases tells
    | missingScene | trackerCycle =>
      obtain rfl := Option.some.inj tells
      trivial
    | @emptyTracker _ memory _ node payload tracker due =>
      obtain rfl := Option.some.inj tells
      refine foretells_emptyTracker nonempty tracker ?_
      by_contra children
      exact absurd (memory.position_lt node children) (by simpa using due)
    | missingChild tracker due absent =>
      obtain rfl := Option.some.inj tells
      exact foretells_missingChild nonempty tracker (List.mem_of_getElem? due) absent
    | @stopped _ reason stops =>
      cases reason with
      | completed | stoppedByUser => cases tells
      | fault =>
        obtain rfl := Option.some.inj tells
        exact foretells_of_stops arises stops

/-- What a review of a clean act does not find is what only playing shows. -/
theorem IsClean.unforetold {fault : Fault} (clean : act.IsClean) (foretold : act.Foretells fault) :
    (∃ node scene, fault = .missingScene node scene) ∨ ∃ node child, fault = .trackerCycle node child := by
  cases fault with
  | missingScene => exact .inl ⟨_, _, rfl⟩
  | trackerCycle => exact .inr ⟨_, _, rfl⟩
  | danglingEdge =>
    obtain ⟨missing, listed⟩ := foretold
    cases clean _ listed
  | emptyGraph | noMatchingBranch | emptyTracker | missingTrackerChild => cases clean _ foretold

theorem Admits.expected (admits : act.Admits id event) (clean : act.IsClean) : event.IsExpected := by
  have rare {fault : Fault} (tells : event.fault? = some fault) :=
    clean.unforetold (admits.foretold tells)
  cases event with
  | nodeEntered => trivial
  | warning =>
    rcases rare rfl with ⟨node, scene, rfl⟩ | ⟨node, child, rfl⟩
    · trivial
    · trivial
  | stopped player owner reason =>
    cases reason with
    | completed | stoppedByUser => trivial
    | fault =>
      -- what ends a playback is found by a review
      cases admits with
      | refused empty => rcases rare rfl with ⟨_, _, same⟩ | ⟨_, _, same⟩ <;> cases same
      | uttered arises utters =>
        cases utters with
        | stopped stops =>
          have natural := stops.isNatural
          rcases rare rfl with ⟨node, scene, rfl⟩ | ⟨node, child, rfl⟩
          · exact natural.elim
          · exact natural.elim

theorem IsClean.startId?_isSome (clean : act.IsClean) : act.startId?.isSome = true := by
  by_contra absent
  have empty := startId?_eq_none.1 (Option.not_isSome_iff_eq_none.1 absent)
  have found : .empty ∈ act.review := by
    rw [review_of_nodes_eq_nil empty]
    exact List.mem_singleton_self _
  cases clean _ found

/-- A review of the act told of what these events report. -/
structure Forewarns (act : Act) (events : List Event) : Prop where
  foretold : ∀ event ∈ events, ∀ fault, event.fault? = some fault → act.Foretells fault
  expected : act.IsClean → ∀ event ∈ events, event.IsExpected

theorem forewarns_of_admits {events : List Event} (admits : ∀ event ∈ events, act.Admits id event) :
    act.Forewarns events where
  foretold := fun event member _ => (admits event member).foretold
  expected := fun clean event member => (admits event member).expected clean

end Act

section Starts

variable {act : Act} {id : PlayerId}

/-- Every start of a player of a clean act succeeds. -/
theorem Career.begins {σ ω : Type} [Scheduler σ] [Output ω] {player : Player}
    {log : List (Episode σ ω)} (career : Career id act player log) (clean : act.IsClean) :
    ∀ episode ∈ log, episode.call = .start → episode.begins = true := by
  induction career with
  | load => simp
  | @call player log later shown before call stage answer ih =>
    intro episode member starts
    rcases List.mem_append.1 member with earlier | now
    · exact ih episode earlier starts
    · obtain rfl := List.mem_singleton.1 now
      obtain rfl : call = .start := starts
      cases before.responds answer with
      | ignored quiet => exact absurd rfl quiet
      | refused absent => simpa [absent] using clean.startId?_isSome
      | begun found succeeds => simp [Episode.begins, succeeds]

namespace Session

variable {ω : Type} [Output ω] {session : Session ω} {log : List (Moment TimerQueue ω)}

/-- A loaded player of a clean act can be started whenever its delays end in time. -/
theorem Lives.start_ok {player : Player} (lives : Lives session log)
    (found : session.player? id = some player) (clean : player.act.IsClean)
    (early : session.now ≤ Span.longest) (room : ¬player.act.Overruns session.now) :
    ∃ later, session.start id = some (.ok (), later) := by
  obtain ⟨act, life⟩ := lives.life found
  obtain rfl : player.act = act := life.chronicle.plays
  cases answer : player.start session.stage with
  | none => exact absurd (life.chronicle.start_eq_none early answer) room
  | some turned =>
    obtain ⟨result, later, shown⟩ := turned
    refine ⟨session.replace later shown, ?_⟩
    rcases Player.start_cases answer with ⟨absent, -⟩ | ⟨node, -, rfl, -⟩
    · simpa [absent] using clean.startId?_isSome
    · rw [Session.start, found]
      simp only [answer, Option.map_some]
      rfl

theorem Course.play_ok {past : List (Session ω × Request ω)} {act : Act} (course : Course session past)
    (clean : act.IsClean) (early : session.now ≤ Span.longest) (room : ¬act.Overruns session.now) :
    ∃ later, session.play act = some (.ok (session.load act).1, later) := by
  obtain ⟨log, run⟩ := course.run
  obtain ⟨settings, players⟩ := player?_load act (course.spoken.absent act)
  have found : (session.load act).2.player? (session.load act).1 =
      some (.load (session.load act).1 act settings session.seeding) := (players _).trans (if_pos rfl)
  obtain ⟨later, started⟩ := ((Lives.kept.run run).load act).start_ok found clean early room
  have answer : session.play act = ((session.load act).2.start (session.load act).1).map
      fun turned => (turned.1.map fun _ => (session.load act).1, turned.2) := rfl
  exact ⟨later, by rw [answer, started]; rfl⟩

end Session

end Starts

/-- Whatever players of an act report of its graph, its trackers and its conditions, a review of the act
has found before: this holds on any clock, in any order of calls, and over all requests of a host. An act
in whose review nothing is more than an information can always be started, is never stopped by a fault,
and warns of nothing but missing scenes and trackers within themselves. -/
theorem Act.review_forewarns (act : Act) :
    (∀ {σ ω : Type} [Scheduler σ] [Output ω] {id : PlayerId} {player : Player}
      {log : List (Episode σ ω)}, Career id act player log → ∀ episode ∈ log,
        act.Forewarns episode.events ∧
        (act.IsClean → episode.call = .start → episode.begins = true)) ∧
    ∀ {ω : Type} [Output ω] {session : Session ω} {past : List (Session ω × Request ω)},
      Session.Course session past →
        (∀ id, (id, act) ∈ Session.loaded past → act.Forewarns (session.eventsOf id)) ∧
        (act.IsClean → session.now ≤ Span.longest → ¬act.Overruns session.now →
          (∃ later, session.play act = some (.ok (session.load act).1, later)) ∧
          ∀ id player, session.player? id = some player → player.act = act →
            ∃ later, session.start id = some (.ok (), later)) := by
  refine ⟨?_, ?_⟩
  · intro σ ω _ _ id player log career episode member
    exact ⟨forewarns_of_admits (career.admits episode member),
      fun clean => career.begins clean episode member⟩
  · intro ω _ session past course
    refine ⟨fun id listed => forewarns_of_admits (course.admits listed), ?_⟩
    intro clean early room
    refine ⟨course.play_ok clean early room, ?_⟩
    rintro id player found rfl
    obtain ⟨log, run⟩ := course.run
    exact (Session.Lives.kept.run run).start_ok found clean early room

/-- A tracker whose only child is not there. -/
def Act.vacancy : Act :=
  { Act.empty ⟨"act"⟩ "vacancy" .epoch with
    nodes := [⟨⟨"tracker"⟩, "tracker", .tracker (.ofChildren [⟨"child"⟩]), .origin⟩] }

/-- Its missing child is warned of when it is played, and so it is found; in the same session, an act that
is clean can be played. -/
theorem Act.review_forewarns_vacancy :
    ∃ session : Session Universe, ∃ past, Session.Course session past ∧
      .warning ⟨1⟩ ⟨"act"⟩ (.missingTrackerChild ⟨"tracker"⟩ ⟨"child"⟩) ∈ session.eventsOf ⟨1⟩ ∧
      .missingTrackerChild ⟨"tracker"⟩ ⟨"child"⟩ ∈ Act.vacancy.review ∧
      Act.relay.IsClean ∧ ∃ later, session.play .relay = some (.ok ⟨2⟩, later) := by
  obtain ⟨session, played, warned, next, now⟩ : ∃ session : Session Universe,
      (Session.bare 3).perform (.play .vacancy) = some session ∧
      .warning ⟨1⟩ ⟨"act"⟩ (.missingTrackerChild ⟨"tracker"⟩ ⟨"child"⟩) ∈ session.eventsOf ⟨1⟩ ∧
      (session.load .relay).1 = ⟨2⟩ ∧ session.now = 0 := ⟨_, rfl, by decide, by decide, by decide⟩
  have course := (Session.Course.bare 3).perform _ played
  have clean : Act.relay.IsClean := by
    have silent : Act.relay.review = [] := by cbv
    intro issue found
    rw [silent] at found
    cases found
  refine ⟨session, _, course, warned, ?_, clean, ?_⟩
  · exact ((Act.vacancy.review_forewarns.2 course).1 ⟨1⟩ List.mem_cons_self).foretold _ warned _ rfl
  · rw [← next]
    refine ((Act.relay.review_forewarns.2 course).2 clean (now ▸ Nat.zero_le _) ?_).1
    rw [now]
    exact Act.not_overruns (by decide)

end LightingDesk
