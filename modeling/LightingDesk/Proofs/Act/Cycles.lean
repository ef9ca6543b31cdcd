import LightingDesk.Proofs.Act.Review
import LightingDesk.Proofs.Graph.Components

/-!
The cycles that a review of an act reports are those of its connections. A circuit is a strongly
connected component of the ids that can be left and come to again (`Act.Circuit`); each one is reported
once, in the order of the ids, and no other list of ids is (`Act.review_cycles`). Where an id repeats, the
connections are drawn at its last node, and the nodes before it stand alone.
-/

namespace LightingDesk

open Relation LightingDesk.Graph

namespace Act

variable {act : Act} {id other : NodeId} {vertex target : Nat} {ids : List NodeId}

/-! ### Circuits -/

/-- Ids that connections lead around through, in order and each of them once. -/
structure Circuit (act : Act) (ids : List NodeId) : Prop where
  ascending : ids.Pairwise fun first second => first.text < second.text
  /-- The ids are those that can be reached from any of them and lead back to it. -/
  connected : ∀ id ∈ ids, ∀ other, other ∈ ids ↔
    ReflTransGen act.Joins id other ∧ ReflTransGen act.Joins other id
  loops : 1 < ids.length ∨ ∃ id ∈ ids, act.Joins id id

namespace Circuit

theorem exists_mem (circuit : act.Circuit ids) : ∃ id, id ∈ ids := by
  rcases circuit.loops with several | ⟨id, member, -⟩
  · exact List.exists_mem_of_length_pos (by omega)
  · exact ⟨id, member⟩

/-- Every id of a circuit can be left and come to again. -/
theorem transGen (circuit : act.Circuit ids) (member : id ∈ ids) : TransGen act.Joins id id := by
  by_cases alone : ∀ other ∈ ids, other = id
  · rcases circuit.loops with several | ⟨only, among, joins⟩
    · -- two ids that are equal cannot be in order
      match ids, circuit.ascending with
      | first :: second :: rest, ascending =>
        have less := (List.pairwise_cons.1 ascending).1 second List.mem_cons_self
        rw [alone first List.mem_cons_self, alone second (.tail _ List.mem_cons_self)] at less
        exact absurd less (String.lt_irrefl _)
    · rw [alone only among] at joins
      exact .single joins
  · simp only [not_forall] at alone
    obtain ⟨other, among, different⟩ := alone
    obtain ⟨onward, back⟩ := (circuit.connected id member other).1 among
    rcases onward.cases_head with same | ⟨next, joins, further⟩
    · exact absurd same.symm different
    · exact .head' joins (further.trans back)

/-- Circuits that have an id in common are the same. -/
theorem eq_of_mem {others : List NodeId} (circuit : act.Circuit ids) (again : act.Circuit others)
    (member : id ∈ ids) (common : id ∈ others) : ids = others := by
  have : Std.Irrefl fun first second : NodeId => first.text < second.text :=
    ⟨fun first => String.lt_irrefl first.text⟩
  refine circuit.ascending.eq_of_mem_iff again.ascending fun other => ?_
  rw [circuit.connected id member, again.connected id common]

end Circuit

/-! ### Sorted ids -/

theorem sortIds_perm (ids : List NodeId) : (sortIds ids).Perm ids := List.mergeSort_perm ..

theorem sortIds_ascending (different : ids.Nodup) :
    (sortIds ids).Pairwise fun first second => first.text < second.text := by
  have sorted : (sortIds ids).Pairwise fun first second =>
      (!decide (second.text < first.text)) = true := by
    refine List.pairwise_mergeSort ?_ ?_ ids
    · intro first second third before after
      simp only [Bool.not_eq_true', decide_eq_false_iff_not, String.not_lt] at before after ⊢
      exact String.le_trans before after
    · intro first second
      simp only [Bool.or_eq_true, Bool.not_eq_true', decide_eq_false_iff_not, String.not_lt]
      exact String.le_total ..
  have distinct : (sortIds ids).Pairwise (· ≠ ·) := (sortIds_perm ids).nodup_iff.2 different
  refine (sorted.and distinct).imp ?_
  rintro ⟨first⟩ ⟨second⟩ ⟨ordered, unequal⟩
  simp only [Bool.not_eq_true', decide_eq_false_iff_not, String.not_lt] at ordered
  by_contra greater
  exact unequal (congrArg NodeId.mk (String.le_antisymm ordered (String.not_lt.1 greater)))

/-! ### Loops of the connections -/

/-- Paths between the vertices of ids are ways between the ids. -/
theorem Draws.path_iff {graph : Digraph} {related : NodeId → NodeId → Prop}
    (draws : act.Draws graph related) (first : act.vertex? id = some vertex)
    (second : act.vertex? other = some target) :
    ReflTransGen graph.Edge vertex target ↔ ReflTransGen related id other := by
  rw [← Digraph.mem_reached_iff draws.sound (draws.lt_size first), draws.mem_reached first second]

theorem connectionGraph_resolves (act : Act) :
    act.connectionGraph.Resolves act.connectionGraph.components :=
  Digraph.resolves_components act.draws_connectionGraph.sound

section Loop

variable {component : List Nat} (listed : component ∈ act.connectionGraph.components)
  (loops : act.connectionGraph.isLoop component = true)
include listed loops

/-- Edges leave the last node of an id only, so a loop holds no other node of it. -/
theorem vertex?_idAt_of_loop (member : vertex ∈ component) :
    act.vertex? (act.idAt vertex) = some vertex := by
  obtain ⟨next, -, edge⟩ :=
    act.connectionGraph_resolves.exists_edge_of_isLoop listed loops member
  obtain ⟨id, other, -, source, -⟩ := (act.draws_connectionGraph.edge vertex next).1 edge
  rw [(idAt_of_vertex? source).2, source]

theorem mem_sortIds_of_loop :
    id ∈ sortIds (component.map act.idAt) ↔ ∃ vertex ∈ component, act.vertex? id = some vertex := by
  rw [(sortIds_perm _).mem_iff, List.mem_map]
  refine exists_congr fun vertex => and_congr_right fun member => ?_
  constructor
  · rintro rfl
    exact vertex?_idAt_of_loop listed loops member
  · exact fun found => (idAt_of_vertex? found).2

/-- The ids of a loop of the graph form a circuit. -/
theorem circuit_of_loop : act.Circuit (sortIds (component.map act.idAt)) where
  ascending := by
    have distinct := (act.connectionGraph_resolves.ascending component listed).imp Nat.ne_of_lt
    refine sortIds_ascending (List.Nodup.map_on ?_ distinct)
    intro vertex member target among same
    have first := vertex?_idAt_of_loop listed loops member
    rw [same, vertex?_idAt_of_loop listed loops among] at first
    exact (Option.some.inj first).symm
  connected := by
    intro id member other
    obtain ⟨vertex, within, found⟩ := (mem_sortIds_of_loop listed loops).1 member
    rw [mem_sortIds_of_loop listed loops]
    constructor
    · rintro ⟨target, among, there⟩
      obtain ⟨onward, back⟩ := (act.connectionGraph_resolves.mem_iff listed within).1 among
      exact ⟨(act.draws_connectionGraph.path_iff found there).1 onward,
        (act.draws_connectionGraph.path_iff there found).1 back⟩
    · rintro ⟨onward, back⟩
      have present : act.hasNode other = true := by
        rcases onward.cases_tail with rfl | ⟨before, -, joins⟩
        · exact hasNode_of_vertex? found
        · exact joins.2.1
      obtain ⟨target, there⟩ := vertex?_of_hasNode present
      refine ⟨target, (act.connectionGraph_resolves.mem_iff listed within).2 ⟨?_, ?_⟩, there⟩
      · exact (act.draws_connectionGraph.path_iff found there).2 onward
      · exact (act.draws_connectionGraph.path_iff there found).2 back
  loops := by
    rw [(sortIds_perm _).length_eq, List.length_map]
    obtain ⟨vertex, within⟩ := act.connectionGraph_resolves.exists_mem listed
    obtain ⟨next, among, edge⟩ :=
      act.connectionGraph_resolves.exists_edge_of_isLoop listed loops within
    match component with
    | [only] =>
      rw [List.mem_singleton] at within among
      rw [within, among] at edge
      refine .inr ⟨act.idAt only, ?_, act.draws_connectionGraph.related_of_edge edge⟩
      exact (sortIds_perm _).mem_iff.2 List.mem_cons_self
    | _ :: _ :: _ => exact .inl (by simp)

end Loop

/-- Where connections lead from a node back to it, a loop of the graph holds the id. -/
theorem exists_loop_of_transGen (cycle : TransGen act.Joins id id) :
    ∃ component ∈ act.connectionGraph.components, act.connectionGraph.isLoop component = true ∧
      id ∈ sortIds (component.map act.idAt) := by
  obtain ⟨next, joins, -⟩ := TransGen.head'_iff.1 cycle
  obtain ⟨vertex, found⟩ := vertex?_of_hasNode joins.1
  obtain ⟨component, listed, member⟩ := act.connectionGraph_resolves.complete vertex
    (act.draws_connectionGraph.lt_size found)
  have around : TransGen act.connectionGraph.Edge vertex vertex := by
    have lifted : TransGen act.connectionGraph.Edge ((act.vertex? id).getD 0)
        ((act.vertex? id).getD 0) :=
      cycle.lift (fun id => (act.vertex? id).getD 0)
        fun _ _ joins => act.draws_connectionGraph.edge_of_related joins
    rwa [found] at lifted
  have loops := (act.connectionGraph_resolves.isLoop_iff listed member).2 around
  exact ⟨component, listed, loops, (mem_sortIds_of_loop listed loops).2 ⟨vertex, member, found⟩⟩

/-! ### Findings -/

theorem mem_cycleIssues {issue : Issue} : issue ∈ act.cycleIssues ↔
    ∃ component ∈ act.connectionGraph.components, act.connectionGraph.isLoop component = true ∧
      .cycle (sortIds (component.map act.idAt)) = issue := by
  simp only [cycleIssues, List.mem_map, List.mem_filter, and_assoc]

/-- The circuits are found, and nothing else. -/
theorem cycle_mem_cycleIssues : .cycle ids ∈ act.cycleIssues ↔ act.Circuit ids := by
  rw [mem_cycleIssues]
  constructor
  · rintro ⟨component, listed, loops, same⟩
    obtain rfl := Issue.cycle.inj same
    exact circuit_of_loop listed loops
  · intro circuit
    obtain ⟨id, member⟩ := circuit.exists_mem
    obtain ⟨component, listed, loops, common⟩ := exists_loop_of_transGen (circuit.transGen member)
    refine ⟨component, listed, loops, congrArg Issue.cycle ?_⟩
    exact (circuit_of_loop listed loops).eq_of_mem circuit common member

/-- Different components have no id in common, so nothing is found twice. -/
theorem cycleIssues_nodup (act : Act) : act.cycleIssues.Nodup := by
  unfold cycleIssues
  rw [List.Nodup, List.pairwise_map]
  refine (act.connectionGraph_resolves.apart.filter _).imp_of_mem ?_
  intro first second member among apart same
  obtain ⟨listed, loops⟩ := List.mem_filter.1 member
  obtain ⟨behind, around⟩ := List.mem_filter.1 among
  obtain ⟨vertex, within⟩ := act.connectionGraph_resolves.exists_mem listed
  have here : act.idAt vertex ∈ sortIds (first.map act.idAt) :=
    (sortIds_perm _).mem_iff.2 (List.mem_map_of_mem within)
  rw [Issue.cycle.inj same] at here
  obtain ⟨target, there, found⟩ := (mem_sortIds_of_loop behind around).1 here
  rw [vertex?_idAt_of_loop listed loops within] at found
  obtain rfl := Option.some.inj found
  exact apart within there

/-- The part of a review that finds circuits is the only one that reports cycles. -/
theorem count_cycle_review :
    act.review.count (.cycle ids) = act.cycleIssues.count (.cycle ids) := by
  by_cases nonempty : act.nodes = []
  · have none : .cycle ids ∉ act.cycleIssues := by
      intro found
      have circuit := cycle_mem_cycleIssues.1 found
      obtain ⟨id, member⟩ := circuit.exists_mem
      obtain ⟨next, joins, -⟩ := TransGen.head'_iff.1 (circuit.transGen member)
      simp [Joins, hasNode, node?, nonempty] at joins
    rw [List.count_eq_zero.2 none, review_of_nodes_eq_nil nonempty]
    rfl
  · have elsewhere : .cycle ids ∉ act.danglingIssues ∧
        .cycle ids ∉ act.nodes.flatMap act.nodeIssues ∧ .cycle ids ∉ act.startIssues ∧
          .cycle ids ∉ act.unreachableIssues := by
      refine ⟨?_, ?_, ?_, ?_⟩
      · simp only [danglingIssues, List.mem_filterMap]
        rintro ⟨edge, -, found⟩
        split_ifs at found <;> cases found
      · simp only [List.mem_flatMap]
        rintro ⟨node, -, found⟩
        cases kind : node.kind <;> simp [nodeIssues, kind] at found
      · unfold startIssues
        split
        next => split_ifs <;> simp
        next => simp
      · unfold unreachableIssues
        split
        next => simp
        next =>
          simp only [List.mem_filterMap]
          rintro ⟨node, -, found⟩
          split_ifs at found
          cases found
    obtain ⟨dangling, nodes, start, unreachable⟩ := elsewhere
    unfold review
    rw [if_neg (by simpa using nonempty)]
    have others (severity : Severity) (issues : List Issue) (other : severity ≠ .info) :
        (ofSeverity severity issues).count (.cycle ids) = 0 := by
      refine List.count_eq_zero.2 fun found => other ?_
      exact (beq_iff_eq.1 (List.mem_filter.1 found).2).symm
    have info (issues : List Issue) :
        (ofSeverity .info issues).count (.cycle ids) = issues.count (.cycle ids) :=
      List.count_filter rfl
    simp only [List.count_append, others _ _ (show Severity.error ≠ .info by decide),
      others _ _ (show Severity.warning ≠ .info by decide), info, List.count_eq_zero.2 dangling,
      List.count_eq_zero.2 nodes, List.count_eq_zero.2 start, List.count_eq_zero.2 unreachable,
      Nat.zero_add, Nat.add_zero]

theorem cycle_mem_review : .cycle ids ∈ act.review ↔ act.Circuit ids := by
  rw [← List.count_pos_iff, count_cycle_review, List.count_pos_iff, cycle_mem_cycleIssues]

/-- The cycles that a review of the act reports are its circuits. -/
structure ReportsCircuits (act : Act) : Prop where
  once : ∀ ids, act.Circuit ids → act.review.count (.cycle ids) = 1
  only : ∀ ids, .cycle ids ∈ act.review → act.Circuit ids
  /-- So the ids that can be left and come to again are those that are shown. -/
  shown : ∀ id, TransGen act.Joins id id ↔ ∃ ids, .cycle ids ∈ act.review ∧ id ∈ ids
  none : (∀ ids, .cycle ids ∉ act.review) ↔ ∀ id, ¬TransGen act.Joins id id

/-- The search of any graph lists its strongly connected components, each of them once; and of those of
the connections of an act, a review reports the ones that loop. -/
theorem review_cycles :
    (∀ graph : Digraph, graph.Sound → graph.Resolves graph.components) ∧
      ∀ act : Act, act.connectionGraph.Sound ∧ act.ReportsCircuits := by
  refine ⟨fun graph sound => Digraph.resolves_components sound, fun act =>
    ⟨act.draws_connectionGraph.sound, ?_⟩⟩
  have shown (id : NodeId) :
      TransGen act.Joins id id ↔ ∃ ids, .cycle ids ∈ act.review ∧ id ∈ ids := by
    constructor
    · intro cycle
      obtain ⟨component, listed, loops, member⟩ := exists_loop_of_transGen cycle
      exact ⟨_, cycle_mem_review.2 (circuit_of_loop listed loops), member⟩
    · rintro ⟨ids, reported, member⟩
      exact (cycle_mem_review.1 reported).transGen member
  refine { once := ?_, only := fun ids => cycle_mem_review.1, shown, none := ?_ }
  · intro ids circuit
    rw [count_cycle_review]
    exact List.count_eq_one_of_mem act.cycleIssues_nodup (cycle_mem_cycleIssues.2 circuit)
  · constructor
    · intro absent id cycle
      obtain ⟨ids, reported, -⟩ := (shown id).1 cycle
      exact absent ids reported
    · intro still ids reported
      obtain ⟨id, member⟩ := (cycle_mem_review.1 reported).exists_mem
      exact still id ((shown id).2 ⟨ids, reported, member⟩)

/-- Two nodes that lead to each other, and a third one that leads to one of them. -/
def roundabout : Act :=
  { Act.empty ⟨"act"⟩ "roundabout" .epoch with
    nodes := [⟨⟨"ramp"⟩, "ramp", .wait ⟨5⟩, .origin⟩, ⟨⟨"far"⟩, "far", .wait ⟨5⟩, .origin⟩,
      ⟨⟨"near"⟩, "near", .wait ⟨5⟩, .origin⟩]
    connections := [⟨⟨"in"⟩, ⟨"ramp"⟩, ⟨"near"⟩, .default, none, none⟩,
      ⟨⟨"out"⟩, ⟨"near"⟩, ⟨"far"⟩, .default, none, none⟩,
      ⟨⟨"back"⟩, ⟨"far"⟩, ⟨"near"⟩, .default, none, none⟩] }

theorem review_cycles_roundabout :
    roundabout.connectionGraph.Sound ∧
    roundabout.connectionGraph.Resolves roundabout.connectionGraph.components ∧
    ∃ ids, ⟨"near"⟩ ∈ ids ∧ ⟨"far"⟩ ∈ ids ∧ roundabout.review.count (.cycle ids) = 1 := by
  obtain ⟨resolves, reports⟩ := review_cycles
  obtain ⟨sound, reported⟩ := reports roundabout
  have out : roundabout.Joins ⟨"near"⟩ ⟨"far"⟩ :=
    ⟨by decide, by decide, ⟨⟨"out"⟩, ⟨"near"⟩, ⟨"far"⟩, .default, none, none⟩, by decide, rfl, rfl⟩
  have back : roundabout.Joins ⟨"far"⟩ ⟨"near"⟩ :=
    ⟨by decide, by decide, ⟨⟨"back"⟩, ⟨"far"⟩, ⟨"near"⟩, .default, none, none⟩, by decide, rfl, rfl⟩
  obtain ⟨ids, found, near⟩ := (reported.shown ⟨"near"⟩).1 (.head out (.single back))
  have circuit := reported.only ids found
  have far := (circuit.connected _ near ⟨"far"⟩).2 ⟨.single out, .single back⟩
  exact ⟨sound, resolves _ sound, ids, near, far, reported.once ids circuit⟩

end Act

end LightingDesk
