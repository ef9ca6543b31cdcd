import LightingDesk.Proofs.Tracker
import LightingDesk.Span

/-!
Operations that fail for some of their arguments, and what then goes wrong. A `Risky` reading of a function
names each operation of this kind that it uses, and is proved equal to the function itself: so nothing ever
goes wrong that the function does not answer for. Only a sum of spans has arguments that no caller can
avoid; a tracker is never advanced without children, so that none of its moves fails (`Risky.advance_eq`).
-/

namespace LightingDesk

/-- What can go wrong in an operation. -/
inductive Hazard where
  /-- A sum of spans is longer than the longest span. -/
  | overflow
  /-- A difference is less than nothing. -/
  | underflow
  /-- A list has no element at an index. -/
  | noElement
  /-- A map has no entry for a key. -/
  | noEntry
  /-- A number is to be drawn from an empty range. -/
  | emptyRange
  /-- An assertion does not hold. -/
  | assertion
deriving DecidableEq, Repr

/-- A result, or what has gone wrong. -/
abbrev Risky (α : Type) := Except Hazard α

namespace Risky

variable {α β : Type}

/-- The sum of two spans. -/
def sum (first second : Nat) : Risky Nat :=
  if first + second ≤ Span.longest then .ok (first + second) else .error .overflow

def difference (first second : Nat) : Risky Nat :=
  if second ≤ first then .ok (first - second) else .error .underflow

def element (list : List α) (index : Nat) : Risky α :=
  match list[index]? with
  | some found => .ok found
  | none => .error .noElement

/-- The entry that a map has been searched for. -/
def entry (found : Option α) : Risky α :=
  match found with
  | some found => .ok found
  | none => .error .noEntry

/-- A number below a bound. -/
def draw (generator : Generator) (bound : Nat) : Risky (Nat × Generator) :=
  if bound = 0 then .error .emptyRange else .ok (generator.below bound)

def assert (condition : Bool) : Risky Unit := if condition then .ok () else .error .assertion

/-- An answer, where the only one that is missing is an instant past the last one. -/
def answer (found : Option α) : Risky α :=
  match found with
  | some found => .ok found
  | none => .error .overflow

@[simp] theorem ok_bind (value : α) (next : α → Risky β) :
    (Except.ok value >>= next) = next value := rfl

theorem answer_bind (found : Option α) {next : α → Risky β} {follow : α → Option β}
    (same : ∀ value, found = some value → next value = answer (follow value)) :
    (answer found >>= next) = answer (found.bind follow) := by
  cases found with
  | none => rfl
  | some value => exact same value rfl

theorem answer_map (found : Option α) (follow : α → β) :
    (answer found >>= fun value => Except.ok (follow value)) = answer (found.map follow) := by
  cases found with
  | none => rfl
  | some value => rfl

theorem eq_overflow_of_answer {found : Option α} {hazard : Hazard}
    (failed : answer found = .error hazard) : hazard = .overflow := by
  cases found with
  | none => exact (Except.error.inj failed).symm
  | some value => cases failed

theorem sum_eq (first second : Nat) : sum first second = answer (Span.after? first second) := by
  unfold sum Span.after?
  split
  next => rfl
  next => rfl

theorem difference_eq {first second : Nat} (ordered : second ≤ first) :
    difference first second = .ok (first - second) := if_pos ordered

theorem element_eq {list : List α} {index : Nat} {found : α} (there : list[index]? = some found) :
    element list index = .ok found := by
  rw [element, there]

theorem mapM_eq {list : List α} {next : α → Risky β} {follow : α → β}
    (same : ∀ value ∈ list, next value = .ok (follow value)) :
    list.mapM next = .ok (list.map follow) := by
  induction list with
  | nil => rfl
  | cons first rest ih =>
    rw [List.mapM_cons, same first List.mem_cons_self, ok_bind,
      ih fun value member => same value (List.mem_cons_of_mem first member)]
    rfl

/-! ### Trackers -/

/-- One step back and forth between the first and the last of `count` children. -/
def turn (position : TrackerPosition) (count : Nat) : Risky TrackerPosition :=
  if count = 1 then .ok ⟨0, position.direction⟩
  else
    match position.direction with
    | .forward => do
        let last ← difference count 1
        if last ≤ position.index then do
          let index ← difference count 2
          .ok ⟨index, .backward⟩
        else .ok ⟨position.index + 1, .forward⟩
    | .backward =>
        if position.index = 0 then .ok ⟨1, .forward⟩
        else do
          let index ← difference position.index 1
          .ok ⟨index, .backward⟩

/-- The rule of each mode, for a tracker that has children. -/
def advance (mode : TrackerMode) (count : Nat) (position : TrackerPosition) (generator : Generator) :
    Risky (TrackerMove × Generator) := do
  assert (0 < count)
  let position := position.clamp count
  match mode with
  | .bounce | .pingPong => do
      let next ← turn position count
      .ok (.to next, generator)
  | .random => do
      let drawn ← draw generator count
      .ok (.to ⟨drawn.1, position.direction⟩, drawn.2)
  | .once =>
      if count - 1 ≤ position.index then .ok (.finished, generator)
      else .ok (.to ⟨position.index + 1, position.direction⟩, generator)

theorem turn_eq {count : Nat} (positive : 0 < count) (position : TrackerPosition) :
    turn position count = .ok (position.turn count) := by
  unfold turn TrackerPosition.turn
  split
  next => rfl
  next several =>
    have two : 2 ≤ count := by omega
    cases position.direction with
    | forward =>
      rw [difference_eq positive, difference_eq two]
      dsimp only [ok_bind]
      split
      next => rfl
      next => rfl
    | backward =>
      dsimp only
      split
      next => rfl
      next inner =>
        rw [difference_eq (Nat.one_le_iff_ne_zero.2 inner)]
        rfl

theorem advance_eq {count : Nat} (positive : 0 < count) (mode : TrackerMode)
    (position : TrackerPosition) (generator : Generator) :
    advance mode count position generator = .ok (mode.advance count position generator) := by
  unfold advance TrackerMode.advance
  rw [assert, if_pos (by simpa using positive), ok_bind]
  dsimp only
  cases mode with
  | bounce | pingPong =>
    rw [turn_eq positive]
    rfl
  | random =>
    rw [draw, if_neg (Nat.pos_iff_ne_zero.1 positive)]
    rfl
  | once =>
    dsimp only
    split
    next => rfl
    next => rfl

end Risky

end LightingDesk
