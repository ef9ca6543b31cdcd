import LightingDesk.Proofs.Playback.Cursor
import Mathlib.Data.List.Chain
import Mathlib.Data.List.Dedup
import Mathlib.Data.List.Perm.Subperm

/-!
The frames of a playback and the step that is due fit each other: frames are distinct nodes, each
played by the tracker below it, and the step is one that the innermost frame allows. `Fits.next`
carries this from step to step, whatever the act looks like.
-/

namespace LightingDesk

namespace Act

/-- `parent` is a tracker that has `child` among its children. -/
def Plays (act : Act) (parent child : NodeId) : Prop :=
  ∃ payload, act.tracker? parent = some payload ∧ child ∈ payload.children

/-- The steps that may be due over some frames. -/
def Allows (act : Act) (frames : List NodeId) : Step → Prop
  | .enter id =>
      act.hasNode id = true ∧ id ∉ frames ∧ ∀ top, frames.head? = some top → act.Plays top id
  | .complete _ => frames ≠ []
  | .trackerStep id => frames.head? = some id ∧ ∃ payload, act.tracker? id = some payload

/-- The ids of the nodes, each once. -/
def distinctIds (act : Act) : List NodeId := (act.nodes.map ActNode.id).dedup

theorem hasNode_iff_mem_distinctIds {act : Act} {id : NodeId} :
    act.hasNode id = true ↔ id ∈ act.distinctIds := by
  simp [hasNode, node?, distinctIds]

theorem hasNode_of_startId? {act : Act} {id : NodeId} (start : act.startId? = some id) :
    act.hasNode id = true := by
  have first (headed : act.nodes.head?.map ActNode.id = some id) : act.hasNode id = true := by
    rw [hasNode_iff_mem_distinctIds, distinctIds, List.mem_dedup]
    rw [← List.head?_map] at headed
    exact List.mem_of_mem_head? headed
  unfold startId? at start
  split at start
  next marked =>
    split at start
    next present => exact Option.some.inj start ▸ present
    next => exact first start
  next => exact first start

end Act

namespace Cursor

structure Fits (act : Act) (cursor : Cursor) : Prop where
  distinct : cursor.frames.Nodup
  present : ∀ id ∈ cursor.frames, act.hasNode id = true
  nested : cursor.frames.IsChain fun child parent => act.Plays parent child
  allowed : act.Allows cursor.frames cursor.step

namespace Fits

theorem start {act : Act} {id : NodeId} (start : act.startId? = some id) (memory : TrackerMemory)
    (generator : Generator) : Fits act ⟨[], memory, generator, .enter id⟩ where
  distinct := List.nodup_nil
  present := by simp
  nested := List.isChain_nil
  allowed := ⟨Act.hasNode_of_startId? start, by simp, by simp⟩

variable {act : Act} {frames below : List NodeId} {memory : TrackerMemory} {generator : Generator}
  {step : Step} {route : Route} {id done parent : NodeId}

/-- What fits while frames stay as they are. -/
theorem due (fits : Fits act ⟨frames, memory, generator, step⟩) (next : Step)
    (allowed : act.Allows frames next) {memory : TrackerMemory} {generator : Generator} :
    Fits act ⟨frames, memory, generator, next⟩ :=
  ⟨fits.distinct, fits.present, fits.nested, allowed⟩

theorem push (fits : Fits act ⟨frames, memory, generator, .enter id⟩) (next : Step)
    (allowed : act.Allows (id :: frames) next) :
    Fits act ⟨id :: frames, memory, generator, next⟩ where
  distinct := List.nodup_cons.2 ⟨fits.allowed.2.1, fits.distinct⟩
  present := List.forall_mem_cons.2 ⟨fits.allowed.1, fits.present⟩
  nested := by
    cases frames with
    | nil => exact List.isChain_singleton _
    | cons top below => exact List.isChain_cons_cons.2 ⟨fits.allowed.2.2 top rfl, fits.nested⟩
  allowed := allowed

theorem pop (fits : Fits act ⟨done :: below, memory, generator, step⟩) (next : Step)
    (allowed : act.Allows below next) {memory : TrackerMemory} {generator : Generator} :
    Fits act ⟨below, memory, generator, next⟩ where
  distinct := (List.nodup_cons.1 fits.distinct).2
  present := (List.forall_mem_cons.1 fits.present).2
  nested := fits.nested.tail
  allowed := allowed

/-- A frame above another one is a child of it. -/
theorem plays (fits : Fits act ⟨done :: parent :: below, memory, generator, step⟩) :
    act.Plays parent done :=
  (List.isChain_cons_cons.1 fits.nested).1

/-- A child has been started by a tracker that has children. -/
theorem not_strayChild (fits : Fits act ⟨done :: parent :: below, memory, generator, step⟩) :
    ¬∀ payload, act.tracker? parent = some payload → payload.children = [] := by
  intro stray
  obtain ⟨payload, tracker, child⟩ := fits.plays
  rw [stray payload tracker] at child
  cases child

theorem tracker?_ne_none (fits : Fits act ⟨frames, memory, generator, .trackerStep id⟩) :
    act.tracker? id ≠ none := by
  obtain ⟨-, payload, tracker⟩ := fits.allowed
  simp [tracker]

/-- A tracker that is to step is on top. -/
theorem exists_below (fits : Fits act ⟨frames, memory, generator, .trackerStep id⟩) :
    ∃ below, frames = id :: below :=
  List.head?_eq_some_iff.1 fits.allowed.1

theorem ne_nil_of_trackerStep (fits : Fits act ⟨frames, memory, generator, .trackerStep id⟩) :
    frames ≠ [] := by
  obtain ⟨below, rfl⟩ := fits.exists_below
  exact List.cons_ne_nil _ _

theorem next {before after : Cursor} {outcome : Bool} (fits : Fits act before)
    (next : Next act outcome before after) : Fits act after := by
  cases next with
  | plain | condition => exact fits.push (.complete _) (List.cons_ne_nil _ _)
  | tracker tracker => exact fits.push (.trackerStep _) ⟨rfl, _, tracker⟩
  | child tracker due present idle =>
    refine fits.due (.enter _) ⟨present, idle, ?_⟩
    intro top head
    rw [fits.allowed.1, Option.some.injEq] at head
    exact head ▸ ⟨_, tracker, List.mem_of_getElem? due⟩
  | childless | missing | busy => exact fits.due (.complete _) fits.ne_nil_of_trackerStep
  | moveOn tracker => exact fits.pop (.trackerStep _) ⟨rfl, _, tracker⟩
  | finished => exact fits.pop (.complete _) (List.cons_ne_nil _ _)
  | follow chosen found =>
    exact fits.pop (.enter _) ⟨Act.hasNode_target found, by simp, by simp⟩
  | strayChild => exact fits.pop (.complete _) (List.cons_ne_nil _ _)
  | strayStep => exact fits.due (.complete _) fits.ne_nil_of_trackerStep

/-- Without frames nothing can be due but to enter a node. -/
theorem enters {cursor : Cursor} (fits : Fits act cursor) (outer : cursor.frames = []) :
    ∃ id, cursor.step = .enter id := by
  obtain ⟨frames, memory, generator, step⟩ := cursor
  cases step with
  | enter id => exact ⟨id, rfl⟩
  | complete => exact absurd outer fits.allowed
  | trackerStep => exact absurd outer fits.ne_nil_of_trackerStep

/-- A playback ends of itself only when its graph node is done. -/
theorem last_frame {cursor : Cursor} {reason : StopReason} (fits : Fits act cursor)
    (stops : Stops act cursor reason) :
    ∃ done route, cursor.frames = [done] ∧ cursor.step = .complete route := by
  cases stops with
  | vanished absent =>
    have present : act.hasNode _ = true := fits.allowed.1
    rw [absent] at present
    simp at present
  | noMatch => exact ⟨_, _, rfl, rfl⟩
  | completed => exact ⟨_, _, rfl, rfl⟩
  | dangling => exact ⟨_, _, rfl, rfl⟩

/-- There are never more frames than nodes with an id of their own. -/
theorem length_le {cursor : Cursor} (fits : Fits act cursor) :
    cursor.frames.length ≤ act.distinctIds.length := by
  apply List.Subperm.length_le
  apply List.subperm_of_subset fits.distinct
  intro id member
  exact Act.hasNode_iff_mem_distinctIds.1 (fits.present id member)

end Fits

end Cursor

end LightingDesk
