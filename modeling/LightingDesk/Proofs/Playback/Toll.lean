import LightingDesk.Proofs.Playback.Arrival
import LightingDesk.Proofs.Tracker
import Mathlib.Algebra.Order.BigOperators.Group.List
import Mathlib.Data.Finset.Card
import Mathlib.Tactic.Ring

/-!
The toll of a cursor: a bound on the steps that a playback still has before it. In an act without cycles
whose trackers play once, every step lowers it (`Next.toll_lt`), however trackers are nested. Three things
run out: the nodes ahead in the graph, the ids that can still be put on the frames, and the children that
are left to each tracker.
-/

namespace LightingDesk

open Relation

/-- Connections have ids of their own and lead nowhere twice, and trackers play once. -/
structure Act.IsFinite (act : Act) : Prop where
  distinct : (act.connections.map Connection.id).Nodup
  acyclic : ∀ nodes, .cycle nodes ∉ act.review
  once : ∀ node ∈ act.nodes, ∀ payload, node.kind = .tracker payload → payload.mode = .once

def ActNode.children (node : ActNode) : List NodeId :=
  match node.kind with
  | .tracker payload => payload.children
  | _ => []

namespace Act

variable {act : Act} {id other : NodeId} {payload : TrackerPayload} {memory : TrackerMemory}
  {frames : List NodeId} {left : Nat}

/-! ### The graph -/

open Classical in
/-- How many nodes lie ahead of a node in the graph. -/
noncomputable def ahead (act : Act) (id : NodeId) : Nat :=
  (act.distinctIds.toFinset.filter (TransGen act.Joins id)).card

theorem IsFinite.irreflexive (finite : act.IsFinite) (id : NodeId) : ¬TransGen act.Joins id id :=
  fun cycle => (exists_cycle_mem_review cycle).elim finite.acyclic

theorem IsFinite.ahead_lt (finite : act.IsFinite) (joins : act.Joins id other) :
    act.ahead other < act.ahead id := by
  classical
  unfold ahead
  apply Finset.card_lt_card
  rw [Finset.ssubset_iff_of_subset]
  · refine ⟨other, ?_, ?_⟩
    · rw [Finset.mem_filter, List.mem_toFinset]
      exact ⟨hasNode_iff_mem_distinctIds.1 joins.2.1, .single joins⟩
    · exact fun member => finite.irreflexive other (Finset.mem_filter.1 member).2
  · intro third
    simp only [Finset.mem_filter]
    exact fun ⟨listed, path⟩ => ⟨listed, .head joins path⟩

theorem ahead_le (act : Act) (id : NodeId) : act.ahead id ≤ act.distinctIds.length := by
  classical
  unfold ahead
  exact (Finset.card_filter_le _ _).trans (List.toFinset_card_le _)

/-! ### Trackers -/

/-- More children than any tracker has, unless it is the only one. -/
def breadth (act : Act) : Nat := (act.nodes.map fun node => node.children.length).sum

theorem length_children_le (tracker : act.tracker? id = some payload) :
    payload.children.length ≤ act.breadth := by
  obtain ⟨node, member, -, kind⟩ := exists_node_of_tracker? tracker
  have own : node.children = payload.children := by rw [ActNode.children, kind]
  rw [← own]
  exact List.le_sum_of_mem (List.mem_map_of_mem member)

theorem IsFinite.mode_eq (finite : act.IsFinite) (tracker : act.tracker? id = some payload) :
    payload.mode = .once := by
  obtain ⟨node, member, -, kind⟩ := exists_node_of_tracker? tracker
  exact finite.once node member payload kind

/-- The most steps for which a node is played, with all that it plays itself, when that many ids are not
being played yet. -/
def tour (act : Act) : Nat → Nat
  | 0 => 0
  | spare + 1 => 2 + (act.breadth + 1) * (1 + act.tour spare)

/-- How many ids are not among the frames. -/
def spare (act : Act) (frames : List NodeId) : Nat := act.distinctIds.length - frames.length

/-- What a tracker still has to do when its present child is done: a step and a tour for each of the other
children, and its own end. -/
def owes (act : Act) (memory : TrackerMemory) (spare : Nat) (id : NodeId) : Nat :=
  match act.tracker? id with
  | none => 0
  | some payload =>
      (payload.children.length - 1 - (memory.position id payload).index) * (1 + act.tour spare) + 1

/-- What all trackers among the frames still have to do. -/
def owed (act : Act) (memory : TrackerMemory) : List NodeId → Nat
  | [] => 0
  | id :: below => act.owes memory (act.spare (id :: below)) id + act.owed memory below

theorem tour_succ (act : Act) (spare : Nat) :
    act.tour (spare + 1) = 3 + act.tour spare + act.breadth * (1 + act.tour spare) := by
  rw [tour]
  ring

theorem owes_of_tracker? (tracker : act.tracker? id = some payload) : act.owes memory left id =
    (payload.children.length - 1 - (memory.position id payload).index) * (1 + act.tour left) + 1 := by
  rw [owes, tracker]

theorem owes_pos (tracker : act.tracker? id = some payload) : 0 < act.owes memory left id := by
  rw [owes_of_tracker? tracker]
  exact Nat.succ_pos _

theorem owes_le (act : Act) (memory : TrackerMemory) (left : Nat) (id : NodeId) :
    act.owes memory left id ≤ act.breadth * (1 + act.tour left) + 1 := by
  unfold owes
  split
  next => exact Nat.zero_le _
  next payload tracker =>
    have few := length_children_le tracker
    exact Nat.succ_le_succ (Nat.mul_le_mul_right _ (by omega))

/-- A tracker that moves on has one child less before it. -/
theorem IsFinite.owes_store (finite : act.IsFinite) {position : TrackerPosition}
    {generator later : Generator} (tracker : act.tracker? id = some payload)
    (children : payload.children ≠ [])
    (moved : payload.mode.advance payload.children.length (memory.position id payload) generator =
      (.to position, later)) :
    act.owes memory left id =
      act.owes (memory.store id position) left id + (1 + act.tour left) := by
  have inside := memory.position_lt id children
  have next := TrackerMode.move?_of_to moved
  rw [finite.mode_eq tracker, TrackerMode.move?_once generator inside] at next
  split at next
  next => cases next
  next more =>
    obtain rfl := Option.some.inj next
    rw [owes_of_tracker? tracker, owes_of_tracker? tracker,
      memory.position_store_self (show _ + 1 < payload.children.length by omega)]
    have fewer : payload.children.length - 1 - (memory.position id payload).index =
        payload.children.length - 1 - ((memory.position id payload).index + 1) + 1 := by omega
    rw [fewer]
    ring

theorem owed_congr {memory other : TrackerMemory} (same : ∀ id ∈ frames, ∀ payload : TrackerPayload,
    other.position id payload = memory.position id payload) :
    act.owed other frames = act.owed memory frames := by
  induction frames with
  | nil => rfl
  | cons id below ih =>
    obtain ⟨own, rest⟩ := List.forall_mem_cons.1 same
    rw [owed, owed, ih rest]
    unfold owes
    simp only [own]

theorem owed_store (foreign : id ∉ frames) (position : TrackerPosition) :
    act.owed (memory.store id position) frames = act.owed memory frames :=
  owed_congr fun _ member _ => memory.position_store_other (ne_of_mem_of_not_mem member foreign) position

theorem owed_forget (foreign : id ∉ frames) :
    act.owed (memory.forget id) frames = act.owed memory frames :=
  owed_congr fun _ member _ => memory.position_forget_other (ne_of_mem_of_not_mem member foreign)

end Act

namespace Cursor

/-- The most steps that are left until the graph node is done. -/
def dues (act : Act) (cursor : Cursor) : Nat :=
  match cursor.step with
  | .enter _ => act.tour (act.spare cursor.frames) + act.owed cursor.memory cursor.frames
  | .complete _ => 1 + act.owed cursor.memory cursor.frames.tail
  | .trackerStep _ => 1 + act.tour (act.spare cursor.frames) + act.owed cursor.memory cursor.frames

/-- The node that was reached in the graph, or is to be entered there. -/
def root? (cursor : Cursor) : Option NodeId := (cursor.step.entering ++ cursor.frames).getLast?

/-- The most steps that are left. -/
noncomputable def toll (act : Act) (cursor : Cursor) : Nat :=
  cursor.dues act + cursor.root?.elim 0 act.ahead * act.tour act.distinctIds.length

variable {act : Act} {before after : Cursor} {outcome : Bool}

theorem Fits.spare_eq {id : NodeId} {frames : List NodeId} {memory : TrackerMemory}
    {generator : Generator} (fits : Fits act ⟨frames, memory, generator, .enter id⟩) :
    act.spare frames = act.spare (id :: frames) + 1 := by
  have room := (fits.push (.complete .first) (List.cons_ne_nil _ _)).length_le
  simp only [List.length_cons] at room
  rw [Act.spare, Act.spare, List.length_cons]
  omega

theorem Fits.dues_pos {cursor : Cursor} (fits : Fits act cursor) : 0 < cursor.dues act := by
  obtain ⟨frames, memory, generator, step⟩ := cursor
  cases step with
  | enter =>
    simp only [dues]
    rw [fits.spare_eq, act.tour_succ]
    omega
  | complete | trackerStep =>
    simp only [dues]
    omega

theorem Next.toll_lt (finite : act.IsFinite) (arises : Arises act before)
    (next : Next act outcome before after) : after.toll act < before.toll act := by
  have fits := arises.fits
  -- all steps but one stay with the graph node
  have inner (root : after.root? = before.root?) (lower : after.dues act < before.dues act) :
      after.toll act < before.toll act := by
    rw [toll, toll, root]
    exact Nat.add_lt_add_right lower _
  cases next with
  | plain | condition =>
    refine inner rfl ?_
    simp only [dues, List.tail_cons]
    rw [fits.spare_eq, act.tour_succ]
    omega
  | @tracker id frames memory _ payload tracker =>
    refine inner rfl ?_
    have owes := act.owes_le memory (act.spare (id :: frames)) id
    simp only [dues, Act.owed]
    rw [fits.spare_eq, act.tour_succ]
    omega
  | child =>
    obtain ⟨below, rfl⟩ := fits.exists_below
    refine inner (List.getLast?_cons_cons ..) ?_
    simp only [dues]
    omega
  | @childless id frames memory _ _ tracker | @busy id frames memory _ _ _ tracker =>
    obtain ⟨below, rfl⟩ := fits.exists_below
    have owes : 0 < act.owes memory (act.spare (id :: below)) id := Act.owes_pos tracker
    refine inner rfl ?_
    simp only [dues, Act.owed, List.tail_cons]
    omega
  | @missing id frames memory _ _ _ tracker =>
    obtain ⟨below, rfl⟩ := fits.exists_below
    have owes : 0 < act.owes memory (act.spare (id :: below)) id := Act.owes_pos tracker
    refine inner rfl ?_
    simp only [dues, Act.owed, List.tail_cons]
    rw [Act.owed_forget (List.nodup_cons.1 fits.distinct).1]
    omega
  | @moveOn done parent below memory _ _ _ position _ tracker children moved =>
    have foreign := (List.nodup_cons.1 (List.nodup_cons.1 fits.distinct).2).1
    have owes : act.owes memory (act.spare (parent :: below)) parent = _ :=
      finite.owes_store tracker children moved
    refine inner (List.getLast?_cons_cons ..).symm ?_
    simp only [dues, Act.owed, List.tail_cons]
    rw [Act.owed_store foreign]
    omega
  | @finished done parent below memory _ _ _ _ tracker =>
    have foreign := (List.nodup_cons.1 (List.nodup_cons.1 fits.distinct).2).1
    have owes : 0 < act.owes memory (act.spare (parent :: below)) parent := Act.owes_pos tracker
    refine inner (List.getLast?_cons_cons ..).symm ?_
    simp only [dues, Act.owed, List.tail_cons]
    rw [Act.owed_forget foreign]
    omega
  | @follow done _ _ _ _ target chosen found =>
    -- a tour of the target is paid for by the node that is no longer ahead
    have fewer := finite.ahead_lt (arises.joins finite.distinct chosen found)
    have paid := Nat.mul_le_mul_right (act.tour act.distinctIds.length) (Nat.succ_le_of_lt fewer)
    simp only [toll, dues, root?, Step.entering, Act.owed, Act.spare, List.length_nil, Nat.sub_zero,
      List.tail_cons, List.append_nil, List.nil_append, List.getLast?_singleton, Option.elim_some]
    rw [Nat.succ_mul] at paid
    omega
  | strayChild stray => exact absurd stray fits.not_strayChild
  | strayStep stray => exact absurd stray fits.tracker?_ne_none

end Cursor

end LightingDesk
