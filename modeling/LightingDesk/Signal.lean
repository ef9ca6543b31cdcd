/-!
Live inputs that condition nodes read, and the board that holds their latest readings.
-/

namespace LightingDesk

/-- An input that can be compared: the time since the act was started, a controller, a message
address or a channel of the output. -/
inductive Signal where
  | time
  | midi (channel controller : UInt8)
  | osc (address : String)
  | dmx (channel : UInt16)
deriving DecidableEq, Repr

/-- The latest reading of each signal that was set and not cleared since. -/
structure SignalBoard where
  readings : List (Signal × Float)

namespace SignalBoard

def empty : SignalBoard := ⟨[]⟩

def reading? (board : SignalBoard) (signal : Signal) : Option Float :=
  board.readings.lookup signal

def clear (board : SignalBoard) (signal : Signal) : SignalBoard :=
  ⟨board.readings.filter fun entry => entry.1 != signal⟩

def set (board : SignalBoard) (signal : Signal) (value : Float) : SignalBoard :=
  ⟨(signal, value) :: (board.clear signal).readings⟩

/-- A control change is read as its plain value. -/
def setController (board : SignalBoard) (channel controller value : UInt8) : SignalBoard :=
  board.set (.midi channel controller) value.toNat.toFloat

def setAddress (board : SignalBoard) (address : String) (value : Float) : SignalBoard :=
  board.set (.osc address) value

theorem reading?_set_self (board : SignalBoard) (signal : Signal) (value : Float) :
    (board.set signal value).reading? signal = some value := by
  simp [set, reading?]

theorem lookup_filter_ne (readings : List (Signal × Float)) {signal other : Signal}
    (different : other ≠ signal) :
    (readings.filter fun entry => entry.1 != signal).lookup other = readings.lookup other := by
  induction readings with
  | nil => rfl
  | cons entry rest ih =>
      obtain ⟨key, value⟩ := entry
      by_cases same : key = signal
      · subst same
        have unequal : (other == key) = false := by simpa using different
        simp [List.lookup_cons, unequal, ih]
      · simp [List.lookup_cons, same, ih]

theorem reading?_set_other (board : SignalBoard) {signal other : Signal}
    (different : other ≠ signal) (value : Float) :
    (board.set signal value).reading? other = board.reading? other := by
  have unequal : (other == signal) = false := by simpa using different
  simp only [set, reading?, clear, List.lookup_cons, unequal]
  exact lookup_filter_ne board.readings different

theorem reading?_clear_other (board : SignalBoard) {signal other : Signal}
    (different : other ≠ signal) : (board.clear signal).reading? other = board.reading? other :=
  lookup_filter_ne board.readings different

end SignalBoard

end LightingDesk
