import LightingDesk.Playback.Fault
/-!
What players report, and the bus that hands their reports to a bounded history and to subscribers.
-/

namespace LightingDesk

inductive StopReason where
  | completed
  | stoppedByUser
  | fault (fault : Fault)
deriving DecidableEq, Repr

inductive Event where
  | nodeEntered (player : PlayerId) (act : ActId) (node : NodeId)
  | stopped (player : PlayerId) (act : ActId) (reason : StopReason)
  | warning (player : PlayerId) (act : ActId) (fault : Fault)
deriving DecidableEq, Repr

def Event.player : Event → PlayerId
  | nodeEntered player _ _ | stopped player _ _ | warning player _ _ => player

/-- A subscriber and the events that wait for it. -/
structure Subscriber where
  number : Nat
  waiting : Array Event

/-- `kept` holds the events since the history was last drained; the history is the last `capacity`
of them. -/
structure EventBus where
  capacity : Nat
  kept : Array Event
  subscribers : List Subscriber
  nextSubscriber : Nat

namespace EventBus

def standardHistory : Nat := 1024

/-- A bus that remembers `capacity` events, and always the last one. -/
def ofCapacity (capacity : Nat) : EventBus :=
  { capacity := max capacity 1, kept := #[], subscribers := [], nextSubscriber := 0 }

def standard : EventBus := ofCapacity standardHistory

def history (bus : EventBus) : List Event :=
  (bus.kept.extract (bus.kept.size - bus.capacity) bus.kept.size).toList

def emit (bus : EventBus) (event : Event) : EventBus :=
  { bus with
    kept := bus.kept.push event
    subscribers := bus.subscribers.map fun subscriber =>
      { subscriber with waiting := subscriber.waiting.push event } }

def drain (bus : EventBus) : List Event × EventBus := (bus.history, { bus with kept := #[] })

/-- Adds a subscriber to the events from now on; its number names it. -/
def subscribe (bus : EventBus) : Nat × EventBus :=
  (bus.nextSubscriber,
    { bus with
      subscribers := bus.subscribers ++ [⟨bus.nextSubscriber, #[]⟩]
      nextSubscriber := bus.nextSubscriber + 1 })

def unsubscribe (bus : EventBus) (number : Nat) : EventBus :=
  { bus with subscribers := bus.subscribers.filter fun subscriber => subscriber.number != number }

/-- Takes the waiting events of a subscriber. -/
def receive? (bus : EventBus) (number : Nat) : Option (List Event × EventBus) :=
  (bus.subscribers.find? fun subscriber => subscriber.number == number).map fun found =>
    (found.waiting.toList,
      { bus with
        subscribers := bus.subscribers.map fun subscriber =>
          if subscriber.number == number then { subscriber with waiting := #[] }
          else subscriber })

end EventBus

end LightingDesk
