import LightingDesk.Proofs.Playback.Utterance
import Mathlib.Data.List.Nodup

/-!
What becomes of the reports of players. A request hands every report that the trace takes down to the bus,
in the same order (`Session.Lives.relays`). So whoever has subscribed is given all that is reported from
then on, and nothing else, and the history ends with it (`Session.Attended.receives_events`).
-/

namespace LightingDesk

/-! ### From the trace to the bus -/

/-- The request changes the bus. -/
def Request.ChangesBus {ω : Type} : Request ω → Prop
  | .changeBus _ => True
  | _ => False

namespace Session

variable {ω : Type} [Output ω] {session middle later : Session ω}

/-- What players have reported on the way to a later session has been handed to the bus. -/
def Relays (session later : Session ω) : Prop :=
  ∃ events, session.stage.Tells later.stage events ∧
    later.stage.bus = events.foldl EventBus.emit session.stage.bus

omit [Output ω] in
theorem Relays.refl (session : Session ω) : session.Relays session := ⟨[], .refl _, rfl⟩

omit [Output ω] in
theorem Relays.trans (first : session.Relays middle) (second : middle.Relays later) :
    session.Relays later := by
  obtain ⟨events, told, bus⟩ := first
  obtain ⟨more, toldMore, busMore⟩ := second
  exact ⟨events ++ more, told.trans toldMore, by rw [busMore, bus, List.foldl_append]⟩

variable {log : List (Moment TimerQueue ω)}

theorem Lives.relays_moves (lives : Lives session log) (moves : session.Moves later) :
    session.Relays later := by
  cases moves with
  | remove | clock => exact .refl session
  | @call id player reached shown call found answer =>
    obtain ⟨deeds, conducts⟩ := lives.conducts found answer
    have shows : (session.replace reached shown).stage =
        (session.stage.record player.id deeds).withClock shown.clock := conducts.records
    refine ⟨deeds.filterMap Deed.event?, ?_, ?_⟩
    · rw [shows]
      exact session.stage.tells_record player.id deeds
    · rw [shows]
      exact session.stage.bus_record player.id deeds

theorem Lives.relays {request : Request ω} (lives : Lives session log)
    (spares : ¬request.ChangesBus) (answer : session.perform request = some later) :
    session.Relays later := by
  refine lives.perform_rule (P := session.Relays) ?_ ?_ ?_ answer
  · intro middle last log lives relays moves
    exact relays.trans (lives.relays_moves moves)
  · intro change
    cases request with
    | changeSignals | changeScenes | changeOutput =>
      obtain rfl := Option.some.inj answer
      exact .refl session
    | changeBus => exact absurd trivial spares
    | _ => exact change.elim
  · cases request <;> exact .refl session

end Session

/-! ### From the bus to its subscribers -/

/-- What a subscriber has met with: the events before it came, and those that it has been given. -/
structure Listener where
  number : Nat
  missed : List Event
  received : List Event

def Listener.receive (number : Nat) (given : List Event) (listener : Listener) : Listener :=
  if listener.number = number then { listener with received := listener.received ++ given }
  else listener

theorem Listener.number_receive (number : Nat) (given : List Event) (listener : Listener) :
    (listener.receive number given).number = listener.number := by
  unfold receive
  split <;> rfl

namespace EventBus

/-- The state of a bus that has been given these events. The listeners are its subscribers; what one of
them has missed and received, with what waits for it, are the events. The history was last drained when
there were the events of `past`. -/
structure Serves (bus : EventBus) (events past : List Event) (listeners : List Listener) : Prop where
  kept : events = past ++ bus.kept.toList
  numbers : bus.subscribers.map Subscriber.number = listeners.map Listener.number
  distinct : (bus.subscribers.map Subscriber.number).Nodup
  numbered : ∀ subscriber ∈ bus.subscribers, subscriber.number < bus.nextSubscriber
  follows : ∀ subscriber ∈ bus.subscribers, ∀ listener ∈ listeners,
    subscriber.number = listener.number →
      events = listener.missed ++ listener.received ++ subscriber.waiting.toList

theorem history_eq (bus : EventBus) :
    bus.history = bus.kept.toList.drop (bus.kept.toList.length - bus.capacity) := by
  simp [history, List.take_of_length_le]

namespace Serves

variable {bus : EventBus} {events past : List Event} {listeners : List Listener}

theorem ofCapacity (capacity : Nat) : (EventBus.ofCapacity capacity).Serves [] [] [] where
  kept := rfl
  numbers := rfl
  distinct := List.nodup_nil
  numbered := fun _ member => absurd member List.not_mem_nil
  follows := fun _ member => absurd member List.not_mem_nil

theorem exists_subscriber {listener : Listener} (serves : bus.Serves events past listeners)
    (member : listener ∈ listeners) :
    ∃ subscriber ∈ bus.subscribers, subscriber.number = listener.number := by
  rw [← List.mem_map, serves.numbers]
  exact List.mem_map_of_mem member

theorem emit (serves : bus.Serves events past listeners) (event : Event) :
    (bus.emit event).Serves (events ++ [event]) past listeners where
  kept := by simp [EventBus.emit, serves.kept]
  numbers := by
    rw [EventBus.emit, List.map_map]
    exact serves.numbers
  distinct := by
    rw [EventBus.emit, List.map_map]
    exact serves.distinct
  numbered := by
    rw [EventBus.emit, List.forall_mem_map]
    exact serves.numbered
  follows := by
    rw [EventBus.emit, List.forall_mem_map]
    intro subscriber member listener listed same
    rw [serves.follows subscriber member listener listed same, Array.toList_push, List.append_assoc]

theorem emitAll (serves : bus.Serves events past listeners) (more : List Event) :
    (more.foldl EventBus.emit bus).Serves (events ++ more) past listeners := by
  induction more generalizing bus events with
  | nil => rwa [List.append_nil]
  | cons event rest ih =>
    have later := ih (serves.emit event)
    rwa [List.append_assoc] at later

theorem drain (serves : bus.Serves events past listeners) :
    bus.drain.2.Serves events events listeners :=
  ⟨(List.append_nil _).symm, serves.numbers, serves.distinct, serves.numbered, serves.follows⟩

/-- A new subscriber has missed what has been reported so far; its number is not that of another. -/
theorem subscribe (serves : bus.Serves events past listeners) :
    bus.subscribe.2.Serves events past (listeners ++ [⟨bus.subscribe.1, events, []⟩]) where
  kept := serves.kept
  numbers := by
    rw [EventBus.subscribe, List.map_append, List.map_append, serves.numbers]
    rfl
  distinct := by
    rw [EventBus.subscribe, List.map_append, List.nodup_append]
    refine ⟨serves.distinct, List.nodup_singleton _, ?_⟩
    intro number listed new added
    obtain ⟨subscriber, member, rfl⟩ := List.mem_map.1 listed
    obtain rfl := List.mem_singleton.1 added
    exact (serves.numbered subscriber member).ne
  numbered := by
    intro subscriber member
    rcases List.mem_append.1 member with member | member
    · exact Nat.lt_succ_of_lt (serves.numbered subscriber member)
    · rw [List.mem_singleton.1 member]
      exact Nat.lt_succ_self _
  follows := by
    intro subscriber member listener listed same
    rcases List.mem_append.1 member with old | new
    · rcases List.mem_append.1 listed with known | joined
      · exact serves.follows subscriber old listener known same
      · rw [List.mem_singleton.1 joined] at same
        exact absurd same (serves.numbered subscriber old).ne
    · rcases List.mem_append.1 listed with known | joined
      · obtain ⟨other, old, named⟩ := serves.exists_subscriber known
        rw [List.mem_singleton.1 new, ← named] at same
        exact absurd same.symm (serves.numbered other old).ne
      · rw [List.mem_singleton.1 new, List.mem_singleton.1 joined]
        simp

theorem unsubscribe (serves : bus.Serves events past listeners) (number : Nat) :
    (bus.unsubscribe number).Serves events past
      (listeners.filter fun listener => listener.number != number) where
  kept := serves.kept
  numbers := by
    have kept := congrArg (List.filter fun other => other != number) serves.numbers
    rwa [List.filter_map, List.filter_map] at kept
  distinct := serves.distinct.sublist (List.filter_sublist.map _)
  numbered := fun subscriber member => serves.numbered subscriber (List.mem_of_mem_filter member)
  follows := fun subscriber member listener listed =>
    serves.follows subscriber (List.mem_of_mem_filter member) listener (List.mem_of_mem_filter listed)

theorem receive {number : Nat} {given : List Event} {later : EventBus}
    (serves : bus.Serves events past listeners) (answer : bus.receive? number = some (given, later)) :
    later.Serves events past (listeners.map (Listener.receive number given)) := by
  simp only [receive?, Option.map_eq_some_iff, Prod.mk.injEq, beq_iff_eq] at answer
  obtain ⟨found, sought, rfl, rfl⟩ := answer
  have named : found.number = number := by simpa using List.find?_some sought
  have unchanged (subscriber : Subscriber) :
      (if subscriber.number = number then { subscriber with waiting := #[] } else subscriber).number =
        subscriber.number := by
    split <;> rfl
  constructor
  case kept => exact serves.kept
  case numbers =>
    simpa only [List.map_map, Function.comp_def, unchanged, Listener.number_receive]
      using serves.numbers
  case distinct =>
    simpa only [List.map_map, Function.comp_def, unchanged] using serves.distinct
  case numbered =>
    rw [List.forall_mem_map]
    intro subscriber member
    rw [unchanged]
    exact serves.numbered subscriber member
  case follows =>
    rw [List.forall_mem_map]
    intro subscriber member
    rw [List.forall_mem_map]
    intro listener listed same
    rw [unchanged, Listener.number_receive] at same
    have follows := serves.follows subscriber member listener listed same
    unfold Listener.receive
    rw [← same]
    by_cases own : subscriber.number = number
    · have only : subscriber = found :=
        List.inj_on_of_nodup_map serves.distinct member (List.mem_of_find?_eq_some sought)
          (own.trans named.symm)
      simpa [own, ← only] using follows
    · simpa [own] using follows

/-- A listener is given all that it has not been given yet of the events since it came. -/
theorem exists_receive {listener : Listener} (serves : bus.Serves events past listeners)
    (member : listener ∈ listeners) : ∃ given later,
      bus.receive? listener.number = some (given, later) ∧
        events = listener.missed ++ listener.received ++ given := by
  obtain ⟨subscriber, listed, same⟩ := serves.exists_subscriber member
  cases sought : bus.subscribers.find? fun subscriber => subscriber.number == listener.number with
  | none =>
    rw [List.find?_eq_none] at sought
    exact absurd (beq_iff_eq.2 same) (sought subscriber listed)
  | some found =>
    have named : found.number = listener.number := by simpa using List.find?_some sought
    refine ⟨found.waiting.toList, _, by rw [receive?, sought]; rfl, ?_⟩
    exact serves.follows found (List.mem_of_find?_eq_some sought) listener member named

end Serves

end EventBus

/-! ### Sessions with an audience -/

namespace Session

variable {ω : Type} [Output ω]

def mapBus (session : Session ω) (change : EventBus → EventBus) : Session ω :=
  session.mapStage fun stage => { stage with bus := change stage.bus }

/-- A session as it has become since it was created, with its listeners and the events before the history
was last drained. Listeners come and go and are given what waits for them whenever the host likes. -/
inductive Attended : Session ω → List Event → List Listener → Prop where
  | create (output : ω) (scenes : SceneLibrary) (settings : EngineSettings) (seeding : Seeding) :
      Attended (.create output scenes settings seeding) [] []
  | perform {session past listeners later} (before : Attended session past listeners)
      (request : Request ω) (spares : ¬request.ChangesBus)
      (answer : session.perform request = some later) : Attended later past listeners
  | subscribe {session past listeners} (before : Attended session past listeners) :
      Attended (session.mapBus fun bus => bus.subscribe.2) past
        (listeners ++ [⟨session.stage.bus.subscribe.1, session.events, []⟩])
  | unsubscribe {session past listeners} (before : Attended session past listeners) (number : Nat) :
      Attended (session.mapBus fun bus => bus.unsubscribe number) past
        (listeners.filter fun listener => listener.number != number)
  | receive {session past listeners number given bus} (before : Attended session past listeners)
      (answer : session.stage.bus.receive? number = some (given, bus)) :
      Attended (session.mapBus fun _ => bus) past (listeners.map (Listener.receive number given))
  | drain {session past listeners} (before : Attended session past listeners) :
      Attended session.drainEvents.2 session.events listeners

namespace Attended

variable {session : Session ω} {past : List Event} {listeners : List Listener}

theorem reachable (attended : Attended session past listeners) : session.Reachable := by
  induction attended with
  | create output scenes settings seeding => exact ⟨[], .create output scenes settings seeding⟩
  | perform before request spares answer ih =>
    obtain ⟨log, run⟩ := ih
    exact ⟨_, run.perform request answer⟩
  | subscribe before ih =>
    obtain ⟨log, run⟩ := ih
    exact ⟨_, run.perform (.changeBus fun bus => bus.subscribe.2) rfl⟩
  | unsubscribe before number ih =>
    obtain ⟨log, run⟩ := ih
    exact ⟨_, run.perform (.changeBus fun bus => bus.unsubscribe number) rfl⟩
  | @receive _ _ _ _ _ bus before answer ih =>
    obtain ⟨log, run⟩ := ih
    exact ⟨_, run.perform (.changeBus fun _ => bus) rfl⟩
  | drain before ih =>
    obtain ⟨log, run⟩ := ih
    exact ⟨_, run.perform (.changeBus fun bus => bus.drain.2) rfl⟩

theorem serves (attended : Attended session past listeners) :
    session.stage.bus.Serves session.events past listeners := by
  induction attended with
  | create output scenes settings seeding => exact .ofCapacity _
  | @perform session past listeners later before request spares answer ih =>
    obtain ⟨log, run⟩ := before.reachable
    obtain ⟨events, tells, bus⟩ := (Lives.kept.run run).relays spares answer
    rw [events_of_tells tells, bus]
    exact ih.emitAll events
  | subscribe before ih => exact ih.subscribe
  | unsubscribe before number ih => exact ih.unsubscribe number
  | receive before answer ih => exact ih.receive answer
  | drain before ih => exact ih.drain

/-- Subscribers are given what is reported from when they came, all of it and in order, and the history
is the end of what has been reported since it was last drained. -/
theorem receives_events (attended : Attended session past listeners) :
    (∀ listener ∈ listeners, ∃ given bus,
      session.stage.bus.receive? listener.number = some (given, bus) ∧
        session.events = listener.missed ++ listener.received ++ given) ∧
    ∃ since, session.events = past ++ since ∧
      session.history = since.drop (since.length - session.stage.bus.capacity) :=
  ⟨fun _ => attended.serves.exists_receive, _, attended.serves.kept, session.stage.bus.history_eq⟩

example : (((Session.bare 8).mapBus fun bus => bus.subscribe.2).perform (.play .relay)).bind
    (fun session => (session.stage.bus.receive? 0).map Prod.fst) =
      some [.nodeEntered ⟨1⟩ ⟨"act"⟩ ⟨"first"⟩, .nodeEntered ⟨1⟩ ⟨"act"⟩ ⟨"second"⟩] := by
  decide

end Attended

end Session

end LightingDesk
