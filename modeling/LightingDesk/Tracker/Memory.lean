import LightingDesk.Tracker
/-!
Where the trackers of one playback stand. A tracker that was never moved stands where its author
put it.
-/

namespace LightingDesk

structure TrackerMemory where
  positions : List (NodeId × TrackerPosition)
deriving DecidableEq, Repr

namespace TrackerMemory

def empty : TrackerMemory := ⟨[]⟩

/-- The position a tracker was last moved to in this playback. -/
def stored? (memory : TrackerMemory) (node : NodeId) : Option TrackerPosition :=
  memory.positions.lookup node

/-- The position a tracker plays from: stored or authored, with an index among its children. -/
def position (memory : TrackerMemory) (node : NodeId) (payload : TrackerPayload) :
    TrackerPosition :=
  ((memory.stored? node).getD payload.initial.position).clamp payload.children.length

def forget (memory : TrackerMemory) (node : NodeId) : TrackerMemory :=
  ⟨memory.positions.filter fun entry => entry.1 != node⟩

def store (memory : TrackerMemory) (node : NodeId) (position : TrackerPosition) :
    TrackerMemory :=
  ⟨(node, position) :: (memory.forget node).positions⟩

theorem stored?_store_self (memory : TrackerMemory) (node : NodeId)
    (position : TrackerPosition) : (memory.store node position).stored? node = some position := by
  simp [store, stored?]

theorem stored?_forget_other (memory : TrackerMemory) {node other : NodeId}
    (different : other ≠ node) : (memory.forget node).stored? other = memory.stored? other := by
  obtain ⟨positions⟩ := memory
  simp only [forget, stored?]
  induction positions with
  | nil => rfl
  | cons entry rest ih =>
      obtain ⟨key, value⟩ := entry
      by_cases same : key = node
      · subst same
        have unequal : (other == key) = false := by simpa using different
        simp [List.lookup_cons, unequal, ih]
      · simp [List.lookup_cons, same, ih]

theorem stored?_forget_self (memory : TrackerMemory) (node : NodeId) :
    (memory.forget node).stored? node = none := by
  obtain ⟨positions⟩ := memory
  simp only [forget, stored?]
  induction positions with
  | nil => rfl
  | cons entry rest ih =>
      obtain ⟨key, value⟩ := entry
      by_cases same : key = node
      · simp [same, ih]
      · have unequal : (node == key) = false := by simpa using Ne.symm same
        simp [List.lookup_cons, same, unequal, ih]

theorem stored?_store_other (memory : TrackerMemory) {node other : NodeId}
    (different : other ≠ node) (position : TrackerPosition) :
    (memory.store node position).stored? other = memory.stored? other := by
  have unequal : (other == node) = false := by simpa using different
  have rest := stored?_forget_other memory different
  simp only [stored?] at rest
  simp only [store, stored?, List.lookup_cons, unequal]
  exact rest

end TrackerMemory

end LightingDesk
