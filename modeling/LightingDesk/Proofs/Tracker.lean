import LightingDesk.Tracker.Memory
import Mathlib.Data.List.Induction

/-!
The course of one tracker through its children, and the memory that holds where trackers stand.
-/

namespace LightingDesk

namespace TrackerPosition

theorem clamp_of_lt {position : TrackerPosition} {count : Nat} (within : position.index < count) :
    position.clamp count = position := by
  have smaller : min position.index (count - 1) = position.index := by omega
  rw [clamp, smaller]

theorem clamp_lt (position : TrackerPosition) {count : Nat} (positive : 0 < count) :
    (position.clamp count).index < count := by
  simp only [clamp]
  omega

theorem turn_lt {position : TrackerPosition} {count : Nat} (within : position.index < count) :
    (position.turn count).index < count := by
  obtain ⟨index, direction⟩ := position
  simp only at within
  unfold turn
  cases direction with
  | forward =>
    simp only
    split_ifs
    · exact Nat.zero_lt_of_lt within
    · simp only
      omega
    · simp only
      omega
  | backward =>
    simp only
    split_ifs
    · exact Nat.zero_lt_of_lt within
    · simp only
      omega
    · simp only
      omega

end TrackerPosition

namespace TrackerMode

/-- Where a tracker goes from a position, given the generator that it finds; nowhere once it is
finished. -/
def move? (mode : TrackerMode) (count : Nat) (position : TrackerPosition) (generator : Generator) :
    Option TrackerPosition :=
  match (mode.advance count position generator).1 with
  | .to next => some next
  | .finished => none

/-- Where a tracker stands after some moves, given the generator that each of them finds. -/
def after (mode : TrackerMode) (count : Nat) (start : TrackerPosition)
    (generators : List Generator) : Option TrackerPosition :=
  generators.foldlM (mode.move? count) start

theorem after_append_singleton {mode : TrackerMode} {count : Nat} {start : TrackerPosition}
    (generators : List Generator) (generator : Generator) :
    mode.after count start (generators ++ [generator]) =
      (mode.after count start generators).bind fun position =>
        mode.move? count position generator := by
  simp [after]

theorem move?_of_to {mode : TrackerMode} {count : Nat} {position next : TrackerPosition}
    {generator later : Generator}
    (moved : mode.advance count position generator = (.to next, later)) :
    mode.move? count position generator = some next := by
  rw [move?, moved]

theorem move?_of_finished {mode : TrackerMode} {count : Nat} {position : TrackerPosition}
    {generator later : Generator}
    (ended : mode.advance count position generator = (.finished, later)) :
    mode.move? count position generator = none := by
  rw [move?, ended]

theorem move?_once {count : Nat} {position : TrackerPosition} (generator : Generator)
    (within : position.index < count) :
    TrackerMode.once.move? count position generator =
      if position.index + 1 = count then none
      else some ⟨position.index + 1, position.direction⟩ := by
  simp only [move?, advance, TrackerPosition.clamp_of_lt within]
  by_cases last : position.index + 1 = count
  · rw [if_pos last, if_pos (by omega)]
  · rw [if_neg last, if_neg (by omega)]

theorem move?_lt {mode : TrackerMode} {count : Nat} {position next : TrackerPosition}
    {generator : Generator} (within : position.index < count)
    (moved : mode.move? count position generator = some next) : next.index < count := by
  cases mode with
  | bounce =>
    obtain rfl := Option.some.inj moved
    rw [TrackerPosition.clamp_of_lt within]
    exact TrackerPosition.turn_lt within
  | pingPong =>
    obtain rfl := Option.some.inj moved
    rw [TrackerPosition.clamp_of_lt within]
    exact TrackerPosition.turn_lt within
  | random =>
    obtain rfl := Option.some.inj moved
    exact generator.below_lt (Nat.zero_lt_of_lt within)
  | once =>
    rw [move?_once generator within] at moved
    split at moved
    next => simp at moved
    next more =>
      obtain rfl := Option.some.inj moved
      simp only
      omega

/-- Only a tracker that plays once comes to an end, after its last child. -/
theorem move?_eq_none_iff {mode : TrackerMode} {count : Nat} {position : TrackerPosition}
    {generator : Generator} (within : position.index < count) :
    mode.move? count position generator = none ↔ mode = .once ∧ position.index + 1 = count := by
  cases mode with
  | bounce => simp [move?, advance]
  | pingPong => simp [move?, advance]
  | random => simp [move?, advance]
  | once => simp [move?_once generator within]

/-- A tracker that plays once goes straight on. -/
theorem index_of_once {count : Nat} {start position : TrackerPosition} {generators : List Generator}
    (within : start.index < count)
    (moved : TrackerMode.once.after count start generators = some position) :
    position.index = start.index + generators.length ∧ position.index < count := by
  induction generators using List.reverseRecOn generalizing position with
  | nil =>
    obtain rfl := Option.some.inj moved
    exact ⟨rfl, within⟩
  | append_singleton generators generator ih =>
    rw [after_append_singleton, Option.bind_eq_some_iff] at moved
    obtain ⟨before, reached, moved⟩ := moved
    obtain ⟨index, inside⟩ := ih reached
    refine ⟨?_, move?_lt inside moved⟩
    rw [move?_once generator inside] at moved
    split at moved
    next => simp at moved
    next =>
      obtain rfl := Option.some.inj moved
      rw [List.length_append, List.length_singleton]
      simp only
      omega

end TrackerMode

namespace TrackerMemory

variable (memory : TrackerMemory) {node other : NodeId} {payload : TrackerPayload}

theorem position_lt (node : NodeId) (children : payload.children ≠ []) :
    (memory.position node payload).index < payload.children.length :=
  TrackerPosition.clamp_lt _ (List.length_pos_iff.2 children)

theorem position_store_self {position : TrackerPosition}
    (within : position.index < payload.children.length) :
    (memory.store node position).position node payload = position := by
  rw [TrackerMemory.position, stored?_store_self, Option.getD_some,
    TrackerPosition.clamp_of_lt within]

theorem position_store_other (different : other ≠ node) (position : TrackerPosition) :
    (memory.store node position).position other payload = memory.position other payload := by
  rw [TrackerMemory.position, stored?_store_other memory different, TrackerMemory.position]

theorem position_forget_other (different : other ≠ node) :
    (memory.forget node).position other payload = memory.position other payload := by
  rw [TrackerMemory.position, stored?_forget_other memory different, TrackerMemory.position]

end TrackerMemory

end LightingDesk
