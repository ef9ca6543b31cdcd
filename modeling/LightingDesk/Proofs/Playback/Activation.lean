import LightingDesk.Proofs.Playback.Frames
import LightingDesk.Proofs.Tracker

/-!
One activation of a tracker, from its entry until its frame is taken off: which children it plays, and
what makes it come to an end. Whatever its children do meanwhile, `Activation.Attends.next` finds the
tracker where it was left.
-/

namespace LightingDesk

/-- A tracker that has been entered: the frames below it then, and the position it starts from. -/
structure Activation where
  tracker : NodeId
  payload : TrackerPayload
  below : List NodeId
  start : TrackerPosition

namespace Activation

/-- The frames up to that of the tracker. -/
abbrev frames (activation : Activation) : List NodeId := activation.tracker :: activation.below

def position (activation : Activation) (memory : TrackerMemory) : TrackerPosition :=
  memory.position activation.tracker activation.payload

def child? (activation : Activation) (position : TrackerPosition) : Option NodeId :=
  activation.payload.children[position.index]?

/-- Where the tracker stands after some moves, given the generator that each of them finds. -/
def after (activation : Activation) (turns : List Generator) : Option TrackerPosition :=
  activation.payload.mode.after activation.payload.children.length activation.start turns

/-- The node that a step enters directly on the tracker. -/
def entered (activation : Activation) (cursor : Cursor) : List NodeId :=
  if cursor.frames = activation.frames then cursor.step.entering else []

/-- The generator that the tracker finds when a step completes one of its children. -/
def turned (activation : Activation) (cursor : Cursor) : List Generator :=
  match cursor.step with
  | .complete _ => if cursor.frames.tail = activation.frames then [cursor.generator] else []
  | _ => []

/-- What a tracker has played so far: child by child what its mode says, given the generators that it
found at its turns. -/
structure Course (activation : Activation) (children : List NodeId) (turns : List Generator) :
    Prop where
  plays : ∀ number child, children[number]? = some child →
    ∃ position, activation.after (turns.take number) = some position ∧
      activation.child? position = some child
  behind : turns.length ≤ children.length
  ahead : children.length ≤ turns.length + 1

/-- The tracker is about to choose a child, sends it, waits until it is done, or is done itself. -/
inductive Attends (activation : Activation) (children : List NodeId) (turns : List Generator) :
    Cursor → Prop where
  | choosing {memory generator} (even : children.length = turns.length)
      (stands : activation.after turns = some (activation.position memory)) :
      Attends activation children turns
        ⟨activation.frames, memory, generator, .trackerStep activation.tracker⟩
  | sending {memory generator child} (even : children.length = turns.length)
      (stands : activation.after turns = some (activation.position memory))
      (due : activation.child? (activation.position memory) = some child) :
      Attends activation children turns ⟨activation.frames, memory, generator, .enter child⟩
  | playing {frames above memory generator step} (split : frames = above ++ activation.frames)
      (inner : above ≠ []) (odd : children.length = turns.length + 1)
      (stands : activation.after turns = some (activation.position memory)) :
      Attends activation children turns ⟨frames, memory, generator, step⟩
  | leaving {memory generator} :
      Attends activation children turns ⟨activation.frames, memory, generator, .complete .first⟩

variable {activation : Activation} {children : List NodeId} {turns : List Generator}

theorem entered_of_inner {frames above : List NodeId} {memory : TrackerMemory}
    {generator : Generator} {step : Step} (split : frames = above ++ activation.frames)
    (inner : above ≠ []) : activation.entered ⟨frames, memory, generator, step⟩ = [] :=
  if_neg (by simpa [split] using inner)

theorem after_append_singleton {generator : Generator} {position : TrackerPosition}
    (stands : activation.after turns = some position) :
    activation.after (turns ++ [generator]) =
      activation.payload.mode.move? activation.payload.children.length position generator := by
  rw [after] at stands ⊢
  rw [TrackerMode.after_append_singleton, stands, Option.bind_some]

theorem Course.nil : activation.Course [] [] where
  plays := by simp
  behind := Nat.le_refl _
  ahead := Nat.zero_le _

/-- A child that the tracker sends is the next one of its course. -/
theorem Course.send {position : TrackerPosition} {child : NodeId}
    (course : activation.Course children turns) (even : children.length = turns.length)
    (stands : activation.after turns = some position) (due : activation.child? position = some child) :
    activation.Course (children ++ [child]) turns where
  plays := by
    intro number other played
    rw [List.getElem?_append] at played
    split at played
    next => exact course.plays number other played
    next past =>
      rw [List.getElem?_singleton] at played
      split at played
      next last =>
        have all : turns.length ≤ number := by omega
        rw [List.take_of_length_le all]
        obtain rfl := Option.some.inj played
        exact ⟨position, stands, due⟩
      next => simp at played
  behind := by
    rw [List.length_append, even]
    exact Nat.le_add_right _ _
  ahead := by
    rw [List.length_append, even]
    exact Nat.le_refl _

theorem Course.turn {generator : Generator} (course : activation.Course children turns)
    (odd : children.length = turns.length + 1) :
    activation.Course children (turns ++ [generator]) where
  plays := by
    intro number child played
    have within : number < children.length := (List.getElem?_eq_some_iff.1 played).1
    rw [List.take_append_of_le_length (by omega)]
    exact course.plays number child played
  behind := by
    rw [List.length_append, odd]
    exact Nat.le_refl _
  ahead := by
    rw [List.length_append, odd]
    exact Nat.le_succ _

theorem Attends.course {cursor : Cursor} (attends : activation.Attends children turns cursor)
    (course : activation.Course children turns) :
    activation.Course (children ++ activation.entered cursor)
      (turns ++ activation.turned cursor) := by
  cases attends with
  | choosing => simpa [entered, turned, Step.entering] using course
  | sending even stands due =>
    simpa [entered, turned, Step.entering] using course.send even stands due
  | @playing _ above memory generator step split inner odd stands =>
    rw [entered_of_inner split inner, List.append_nil]
    cases step with
    | enter => simpa [turned] using course
    | trackerStep => simpa [turned] using course
    | complete =>
      simp only [turned]
      split
      next => exact course.turn odd
      next => simpa using course
  | leaving => simpa [entered, turned, Step.entering] using course

/-- A frame above that of the tracker belongs to another node. -/
theorem ne_tracker {above : List NodeId} {id : NodeId}
    (distinct : (above ++ activation.frames).Nodup) (member : id ∈ above) :
    activation.tracker ≠ id := by
  rintro rfl
  exact (List.nodup_append.1 distinct).2.2 _ member _ List.mem_cons_self rfl

/-- A node that is done lies directly on the tracker or on another frame above it. -/
theorem split_cases {above below : List NodeId} {done parent : NodeId}
    (split : done :: parent :: below = above ++ activation.frames) (inner : above ≠ []) :
    parent :: below = activation.frames ∨
      ∃ rest, above = done :: parent :: rest ∧ below = rest ++ activation.frames := by
  match above with
  | [] => exact absurd rfl inner
  | [_] => exact .inl (List.cons.inj split).2
  | _ :: _ :: rest =>
    right
    simp only [List.cons_append, List.cons.injEq] at split
    obtain ⟨rfl, rfl, same⟩ := split
    exact ⟨rest, rfl, same⟩

theorem turned_of_child {done : NodeId} {memory : TrackerMemory} {generator : Generator}
    {route : Route} :
    activation.turned ⟨done :: activation.frames, memory, generator, .complete route⟩ =
      [generator] :=
  if_pos rfl

theorem turned_of_inner {done parent : NodeId} {rest : List NodeId} {memory : TrackerMemory}
    {generator : Generator} {route : Route} :
    activation.turned ⟨done :: parent :: (rest ++ activation.frames), memory, generator,
      .complete route⟩ = [] := by
  refine if_neg ?_
  intro same
  have lengths := congrArg List.length same
  simp only [List.tail_cons, List.length_cons, List.length_append] at lengths
  omega

theorem Attends.next_playing {act : Act} {outcome : Bool} {frames above : List NodeId}
    {memory : TrackerMemory} {generator : Generator} {step : Step} {after : Cursor}
    (tracker : act.tracker? activation.tracker = some activation.payload)
    (fits : Cursor.Fits act ⟨frames, memory, generator, step⟩)
    (split : frames = above ++ activation.frames) (inner : above ≠ [])
    (odd : children.length = turns.length + 1)
    (stands : activation.after turns = some (activation.position memory))
    (next : Cursor.Next act outcome ⟨frames, memory, generator, step⟩ after) :
    activation.Attends children (turns ++ activation.turned ⟨frames, memory, generator, step⟩)
      after := by
  have distinct : (above ++ activation.frames).Nodup := split ▸ fits.distinct
  have pushed (id : NodeId) : id :: frames = (id :: above) ++ activation.frames := by
    rw [split, List.cons_append]
  cases next with
  | plain | condition | tracker =>
    rw [turned, List.append_nil]
    exact .playing (pushed _) (List.cons_ne_nil _ _) odd stands
  | child | childless | busy =>
    rw [turned, List.append_nil]
    exact .playing split inner odd stands
  | @missing id =>
    rw [turned, List.append_nil]
    refine .playing split inner odd (stands.trans ?_)
    have member : id ∈ above := by
      have top : (above ++ activation.frames).head? = some id := split ▸ fits.allowed.1
      rw [List.head?_append_of_ne_nil _ inner] at top
      exact List.mem_of_mem_head? top
    rw [position, position, memory.position_forget_other (ne_tracker distinct member)]
  | @moveOn done parent below memory generator route payload place later found some moved =>
    rcases split_cases split inner with same | ⟨rest, rfl, rfl⟩
    · obtain ⟨rfl, rfl⟩ := List.cons.inj same
      obtain rfl := Option.some.inj (tracker.symm.trans found)
      have next := TrackerMode.move?_of_to moved
      have within := TrackerMode.move?_lt (memory.position_lt _ some) next
      rw [turned_of_child]
      refine .choosing ?_ ?_
      · rw [odd, List.length_append, List.length_singleton]
      · rw [after_append_singleton stands, position, position, next,
          memory.position_store_self within]
    · rw [turned_of_inner, List.append_nil]
      refine .playing (List.cons_append).symm (List.cons_ne_nil _ _) odd (stands.trans ?_)
      have other := ne_tracker distinct (List.mem_cons_of_mem done List.mem_cons_self)
      rw [position, position, memory.position_store_other other]
  | @finished done parent below memory generator route payload later found some ended =>
    rcases split_cases split inner with same | ⟨rest, rfl, rfl⟩
    · obtain ⟨rfl, rfl⟩ := List.cons.inj same
      exact .leaving
    · rw [turned_of_inner, List.append_nil]
      refine .playing (List.cons_append).symm (List.cons_ne_nil _ _) odd (stands.trans ?_)
      have other := ne_tracker distinct (List.mem_cons_of_mem done List.mem_cons_self)
      rw [position, position, memory.position_forget_other other]
  | follow =>
    have lengths := congrArg List.length split
    have some := List.length_pos_iff.2 inner
    simp only [List.length_cons, List.length_nil, List.length_append] at lengths
    omega
  | strayChild stray => exact absurd stray fits.not_strayChild
  | strayStep stray => exact absurd stray fits.tracker?_ne_none

theorem Attends.next {act : Act} {outcome : Bool} {before after : Cursor}
    (tracker : act.tracker? activation.tracker = some activation.payload)
    (fits : before.Fits act) (attends : activation.Attends children turns before)
    (next : Cursor.Next act outcome before after) :
    activation.Attends (children ++ activation.entered before) (turns ++ activation.turned before)
      after ∨
    before.frames = activation.frames ∧ before.step = .complete .first ∧
      after.frames = activation.below := by
  obtain ⟨id, payload, below, start⟩ := activation
  cases attends with
  | choosing even stands =>
    left
    cases next with
    | child found due =>
      obtain rfl := Option.some.inj (tracker.symm.trans found)
      simp only [entered, turned, Step.entering, ite_self, List.append_nil]
      exact .sending even stands due
    | childless | missing | busy => exact .leaving
    | strayStep stray => simp [stray] at tracker
  | @sending memory generator child even stands due =>
    left
    have odd : (children ++ [child]).length = turns.length + 1 := by
      rw [List.length_append, even, List.length_singleton]
    simp only [entered, turned, Step.entering, if_true, List.append_nil]
    cases next with
    | plain | condition | tracker =>
      exact .playing (List.singleton_append).symm (List.cons_ne_nil _ _) odd stands
  | @playing frames above memory generator step split inner odd stands =>
    left
    rw [entered_of_inner split inner, List.append_nil]
    exact Attends.next_playing tracker fits split inner odd stands next
  | leaving =>
    right
    cases next with
    | moveOn => exact ⟨rfl, rfl, rfl⟩
    | finished => exact ⟨rfl, rfl, rfl⟩
    | follow => exact ⟨rfl, rfl, rfl⟩
    | strayChild => exact ⟨rfl, rfl, rfl⟩

theorem Attends.suffix {cursor : Cursor} (attends : activation.Attends children turns cursor) :
    activation.frames <:+ cursor.frames := by
  cases attends with
  | choosing => exact List.suffix_rfl
  | sending => exact List.suffix_rfl
  | playing split => exact ⟨_, split.symm⟩
  | leaving => exact List.suffix_rfl

/-- The tracker stands where its course has brought it, until it is done. -/
theorem Attends.stands {cursor : Cursor} (attends : activation.Attends children turns cursor)
    (notDone : ¬(cursor.frames = activation.frames ∧ cursor.step = .complete .first)) :
    activation.after turns = some (activation.position cursor.memory) := by
  cases attends with
  | choosing _ stands => exact stands
  | sending _ stands => exact stands
  | playing _ _ _ stands => exact stands
  | leaving => exact absurd ⟨rfl, rfl⟩ notDone

theorem Attends.odd {cursor : Cursor} {child : NodeId}
    (attends : activation.Attends children turns cursor)
    (above : cursor.frames = child :: activation.frames) :
    children.length = turns.length + 1 := by
  cases attends with
  | choosing => simp at above
  | sending => simp at above
  | playing _ _ odd => exact odd
  | leaving => simp at above

/-- There is no child to be sent: none at all, or the one that is due does not exist or is being
played already. -/
def Declines (act : Act) (activation : Activation) (memory : TrackerMemory) : Prop :=
  activation.payload.children = [] ∨
    ∃ child, activation.child? (activation.position memory) = some child ∧
      (act.hasNode child = false ∨ child ∈ activation.frames)

/-- What makes a tracker done: it has no child to send, or it plays once and its last child is
done. -/
inductive Concludes (act : Act) (activation : Activation) : Cursor → Prop where
  | declined {memory generator} (declines : activation.Declines act memory) :
      Concludes act activation
        ⟨activation.frames, memory, generator, .trackerStep activation.tracker⟩
  | finished {child memory generator route} (once : activation.payload.mode = .once)
      (last : (activation.position memory).index + 1 = activation.payload.children.length) :
      Concludes act activation ⟨child :: activation.frames, memory, generator, .complete route⟩

theorem Concludes.next {act : Act} {outcome : Bool} {before after : Cursor}
    (tracker : act.tracker? activation.tracker = some activation.payload)
    (concludes : activation.Concludes act before) (next : Cursor.Next act outcome before after) :
    after.frames = activation.frames ∧ after.step = .complete .first := by
  obtain ⟨id, payload, below, start⟩ := activation
  cases concludes with
  | declined declines =>
    cases next with
    | child found due present idle =>
      obtain rfl := Option.some.inj (tracker.symm.trans found)
      rcases declines with none | ⟨child, same, reason⟩
      · rw [show payload.children = [] from none] at due
        simp at due
      · obtain rfl := Option.some.inj (due.symm.trans same)
        rcases reason with absent | busy
        · simp [present] at absent
        · exact absurd busy idle
    | childless => exact ⟨rfl, rfl⟩
    | missing => exact ⟨rfl, rfl⟩
    | busy => exact ⟨rfl, rfl⟩
    | strayStep => exact ⟨rfl, rfl⟩
  | @finished _ memory _ _ once last =>
    cases next with
    | moveOn found some moved =>
      obtain rfl := Option.some.inj (tracker.symm.trans found)
      have within := memory.position_lt id some
      have went := TrackerMode.move?_of_to moved
      rw [(TrackerMode.move?_eq_none_iff within).2 ⟨once, last⟩] at went
      simp at went
    | finished => exact ⟨rfl, rfl⟩
    | strayChild => exact ⟨rfl, rfl⟩

theorem Concludes.of_complete {act : Act} {cursor : Cursor} {route : Route}
    (concludes : activation.Concludes act cursor) (complete : cursor.step = .complete route) :
    (∃ child, cursor.frames = child :: activation.frames) ∧ activation.payload.mode = .once ∧
      (activation.position cursor.memory).index + 1 = activation.payload.children.length := by
  cases concludes with
  | declined => cases complete
  | finished once last => exact ⟨⟨_, rfl⟩, once, last⟩

/-- A step above the tracker makes it done only when the last child of a tracker that plays once is
done. -/
theorem concludes_of_playing {act : Act} {outcome : Bool} {frames above : List NodeId}
    {memory : TrackerMemory} {generator : Generator} {step : Step} {after : Cursor} {route : Route}
    (tracker : act.tracker? activation.tracker = some activation.payload)
    (fits : Cursor.Fits act ⟨frames, memory, generator, step⟩)
    (split : frames = above ++ activation.frames) (inner : above ≠ [])
    (next : Cursor.Next act outcome ⟨frames, memory, generator, step⟩ after)
    (top : after.frames = activation.frames) (done : after.step = .complete route) :
    activation.Concludes act ⟨frames, memory, generator, step⟩ := by
  have some := List.length_pos_iff.2 inner
  have lengths := congrArg List.length split
  have level := congrArg List.length top
  rw [List.length_append] at lengths
  cases next with
  | plain | condition =>
    simp only [List.length_cons] at lengths level
    omega
  | tracker | child => cases done
  | childless | missing | busy =>
    simp only at level
    omega
  | moveOn => cases done
  | finished found children ended =>
    obtain ⟨rfl, rfl⟩ := List.cons.inj top
    obtain rfl := Option.some.inj (tracker.symm.trans found)
    have within := memory.position_lt activation.tracker children
    obtain ⟨once, last⟩ :=
      (TrackerMode.move?_eq_none_iff within).1 (TrackerMode.move?_of_finished ended)
    exact .finished once last
  | follow => cases done
  | strayChild stray => exact absurd stray fits.not_strayChild
  | strayStep stray => exact absurd stray fits.tracker?_ne_none

theorem Attends.concludes {act : Act} {outcome : Bool} {before after : Cursor} {route : Route}
    (tracker : act.tracker? activation.tracker = some activation.payload)
    (fits : before.Fits act) (attends : activation.Attends children turns before)
    (next : Cursor.Next act outcome before after) (top : after.frames = activation.frames)
    (done : after.step = .complete route) : activation.Concludes act before := by
  obtain ⟨id, payload, below, start⟩ := activation
  have deeper (frame : NodeId) (frames : List NodeId) : frame :: frames ≠ frames := by simp
  cases attends with
  | @choosing memory _ even stands =>
    refine .declined ?_
    cases next with
    | child => cases done
    | childless found due =>
      obtain rfl := Option.some.inj (tracker.symm.trans found)
      by_contra declined
      have within := memory.position_lt id fun none => declined (.inl none)
      rw [List.getElem?_eq_none_iff] at due
      exact absurd within (Nat.not_lt.2 due)
    | missing found due absent =>
      obtain rfl := Option.some.inj (tracker.symm.trans found)
      exact .inr ⟨_, due, .inl absent⟩
    | busy found due present busy =>
      obtain rfl := Option.some.inj (tracker.symm.trans found)
      exact .inr ⟨_, due, .inr busy⟩
    | strayStep stray => simp [stray] at tracker
  | sending =>
    cases next with
    | plain | condition | tracker => exact absurd top (deeper _ _)
  | playing split inner =>
    exact concludes_of_playing tracker fits split inner next top done
  | leaving =>
    cases next with
    | moveOn => cases done
    | finished => exact absurd top.symm (deeper _ _)
    | follow => cases done
    | strayChild => exact absurd top.symm (deeper _ _)

/-- Only a tracker that is done can be the last frame of a playback that ends. -/
theorem Attends.stops {act : Act} {cursor : Cursor} {reason : StopReason}
    (fits : cursor.Fits act) (attends : activation.Attends children turns cursor)
    (stops : cursor.Stops act reason) :
    cursor.frames = activation.frames ∧ cursor.step = .complete .first ∧ activation.below = [] := by
  obtain ⟨done, route, frames, complete⟩ := fits.last_frame stops
  cases attends with
  | choosing => cases complete
  | sending => cases complete
  | playing split inner =>
    have some := List.length_pos_iff.2 inner
    have lengths := congrArg List.length (split.symm.trans frames)
    simp only [List.length_append, List.length_cons, List.length_nil] at lengths
    omega
  | leaving => exact ⟨rfl, rfl, (List.cons.inj frames).2⟩

/-- What a tracker that plays once has played is a stretch of its children. -/
theorem Course.once (course : activation.Course children turns)
    (once : activation.payload.mode = .once)
    (within : activation.payload.children ≠ [] →
      activation.start.index < activation.payload.children.length) :
    children <+: activation.payload.children.drop activation.start.index := by
  rw [List.prefix_iff_getElem?]
  intro number inside
  obtain ⟨position, stands, due⟩ := course.plays number _ (List.getElem?_eq_getElem inside)
  have some : activation.payload.children ≠ [] := by
    intro none
    simp [child?, none] at due
  rw [after, once] at stands
  have index := (TrackerMode.index_of_once (within some) stands).1
  have ahead := course.ahead
  rw [List.length_take, Nat.min_eq_left (by omega)] at index
  rw [child?, index] at due
  rw [List.getElem?_drop, due]

/-- When its last child is done, it has played all of them from where it started. -/
theorem Course.all_played {position : TrackerPosition} (course : activation.Course children turns)
    (once : activation.payload.mode = .once)
    (within : activation.payload.children ≠ [] →
      activation.start.index < activation.payload.children.length)
    (odd : children.length = turns.length + 1) (stands : activation.after turns = some position)
    (last : position.index + 1 = activation.payload.children.length) :
    children = activation.payload.children.drop activation.start.index := by
  apply (course.once once within).eq_of_length
  have some : activation.payload.children ≠ [] := by
    intro none
    simp [none] at last
  rw [after, once] at stands
  have index := (TrackerMode.index_of_once (within some) stands).1
  rw [List.length_drop]
  omega

end Activation

end LightingDesk
