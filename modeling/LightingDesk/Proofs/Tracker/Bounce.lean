import LightingDesk.Proofs.Tracker
import Mathlib.Data.Nat.ModEq

/-!
The walk of a tracker back and forth. A round leads from the first child to the last one and back, and
the phase of a position counts the steps since the first child. Every step is one phase further
(`TrackerPosition.phase_turn`), so after any number of steps the phase tells the child:
`TrackerMode.bounces`.
-/

namespace LightingDesk

/-- The steps of a round from the first of `count` children to the last one and back. -/
def bounceRound (count : Nat) : Nat := 2 * (count - 1)

/-- The child that a round is at after `phase` steps. -/
def bounceChild (count phase : Nat) : Nat :=
  if phase ≤ count - 1 then phase else bounceRound count - phase

namespace TrackerPosition

/-- The steps of a round that lead from the first child to the position. -/
def phase (position : TrackerPosition) (count : Nat) : Nat :=
  match position.direction with
  | .forward => (position.clamp count).index
  | .backward => bounceRound count - (position.clamp count).index

variable {position other : TrackerPosition} {count : Nat}

theorem phase_clamp (position : TrackerPosition) (count : Nat) :
    (position.clamp count).phase count = position.phase count := by
  obtain ⟨index, direction⟩ := position
  cases direction with
  | forward => simp [phase, clamp]
  | backward => simp [phase, clamp]

theorem phase_forward {index : Nat} (within : index < count) :
    phase ⟨index, .forward⟩ count = index :=
  congrArg TrackerPosition.index (clamp_of_lt within)

theorem phase_backward {index : Nat} (within : index < count) :
    phase ⟨index, .backward⟩ count = bounceRound count - index :=
  congrArg (fun position => bounceRound count - TrackerPosition.index position) (clamp_of_lt within)

/-- The phase tells where a position is. -/
theorem bounceChild_phase (several : 2 ≤ count) (within : position.index < count) :
    bounceChild count (position.phase count % bounceRound count) = position.index := by
  obtain ⟨index, direction⟩ := position
  simp only at within
  cases direction with
  | forward =>
    rw [phase_forward within, Nat.mod_eq_of_lt (by simp only [bounceRound]; omega), bounceChild,
      if_pos (by omega)]
  | backward =>
    rw [phase_backward within]
    by_cases first : index = 0
    · subst first
      rw [Nat.sub_zero, Nat.mod_self, bounceChild, if_pos (Nat.zero_le _)]
    · rw [Nat.mod_eq_of_lt (by simp only [bounceRound]; omega), bounceChild]
      by_cases last : index = count - 1
      · rw [if_pos (by simp only [bounceRound]; omega)]
        simp only [bounceRound]
        omega
      · rw [if_neg (by simp only [bounceRound]; omega)]
        simp only [bounceRound]
        omega

/-- A step is one phase further. -/
theorem phase_turn (several : 2 ≤ count) (within : position.index < count) :
    (position.turn count).phase count ≡ position.phase count + 1 [MOD bounceRound count] := by
  have inside := turn_lt within
  have plural : count ≠ 1 := by omega
  obtain ⟨index, direction⟩ := position
  simp only at within
  cases direction with
  | forward =>
    simp only [turn, if_neg plural] at inside ⊢
    split at inside
    next last =>
      rw [if_pos last, phase_backward inside, phase_forward within]
      have same : bounceRound count - (count - 2) = index + 1 := by
        simp only [bounceRound]
        omega
      rw [same]
    next more => rw [if_neg more, phase_forward inside, phase_forward within]
  | backward =>
    simp only [turn, if_neg plural] at inside ⊢
    split at inside
    next first =>
      subst first
      rw [if_pos rfl, phase_forward inside, phase_backward within, Nat.sub_zero]
      exact Nat.add_modEq_left.symm
    next later =>
      rw [if_neg later, phase_backward inside, phase_backward within]
      have same : bounceRound count - (index - 1) = bounceRound count - index + 1 := by
        simp only [bounceRound]
        omega
      rw [same]

/-- A step leads to a child beside the one that it leaves. -/
theorem turn_beside (several : 2 ≤ count) (within : position.index < count) :
    (position.turn count).index = position.index + 1 ∨
      position.index = (position.turn count).index + 1 := by
  have plural : count ≠ 1 := by omega
  obtain ⟨index, direction⟩ := position
  simp only at within
  cases direction with
  | forward =>
    simp only [turn, if_neg plural]
    split
    · simp only
      omega
    · exact .inl rfl
  | backward =>
    simp only [turn, if_neg plural]
    split
    · simp only
      omega
    · simp only
      omega

/-- Where a step leads to depends on the phase alone. -/
theorem turn_congr (several : 2 ≤ count) (within : position.index < count)
    (also : other.index < count)
    (same : position.phase count ≡ other.phase count [MOD bounceRound count]) :
    position.turn count = other.turn count := by
  have child := bounceChild_phase several within
  rw [same, bounceChild_phase several also] at child
  obtain ⟨index, direction⟩ := position
  obtain ⟨index', direction'⟩ := other
  simp only at within also child
  subst child
  have plural : count ≠ 1 := by omega
  -- At an end both ways lead on to the same child; elsewhere the phases of the two ways differ.
  have ends (forth : phase ⟨index', .forward⟩ count ≡ phase ⟨index', .backward⟩ count
      [MOD bounceRound count]) : index' = 0 ∨ index' = count - 1 := by
    rw [phase_forward also, phase_backward also] at forth
    by_contra between
    rw [not_or] at between
    have one : index' < bounceRound count := by
      simp only [bounceRound]
      omega
    have two : bounceRound count - index' < bounceRound count := by omega
    have equal := forth.eq_of_lt_of_lt one two
    simp only [bounceRound] at equal
    omega
  have turns (end? : index' = 0 ∨ index' = count - 1) :
      turn ⟨index', .forward⟩ count = turn ⟨index', .backward⟩ count := by
    simp only [turn, if_neg plural]
    rcases end? with rfl | rfl
    · rw [if_neg (by omega), if_pos rfl]
    · rw [if_pos (Nat.le_refl _), if_neg (by omega)]
      simp only [mk.injEq, and_true]
      omega
  cases direction with
  | forward =>
    cases direction' with
    | forward => rfl
    | backward => exact turns (ends same)
  | backward =>
    cases direction' with
    | forward => exact (turns (ends same.symm)).symm
    | backward => rfl

end TrackerPosition

namespace TrackerMode

open TrackerPosition

variable {mode : TrackerMode} {count : Nat} {start position : TrackerPosition}

/-- The two modes that walk back and forth. -/
def Bouncing (mode : TrackerMode) : Prop := mode = .bounce ∨ mode = .pingPong

theorem Bouncing.advance_eq (bouncing : mode.Bouncing) (count : Nat) (position : TrackerPosition)
    (generator : Generator) : mode.advance count position generator =
      (.to ((position.clamp count).turn count), generator) := by
  rcases bouncing with rfl | rfl
  · rfl
  · rfl

theorem Bouncing.move?_eq (bouncing : mode.Bouncing) (count : Nat) (position : TrackerPosition)
    (generator : Generator) :
    mode.move? count position generator = some ((position.clamp count).turn count) :=
  move?_of_to (bouncing.advance_eq count position generator)

/-- An index that names no child counts as the last one from the first step on. -/
theorem Bouncing.after_clamp (bouncing : mode.Bouncing) {generators : List Generator}
    (moved : generators ≠ []) :
    mode.after count (start.clamp count) generators = mode.after count start generators := by
  obtain ⟨generator, later, rfl⟩ := List.exists_cons_of_ne_nil moved
  simp only [after, List.foldlM_cons, bouncing.move?_eq]
  have twice : (start.clamp count).clamp count = start.clamp count := by simp [clamp]
  rw [twice]

/-- A walk that has come to a child takes a turn from there. -/
theorem Bouncing.after_append_turn (bouncing : mode.Bouncing) {generators : List Generator}
    (reached : mode.after count (start.clamp count) generators = some position)
    (within : position.index < count) (generator : Generator) :
    mode.after count (start.clamp count) (generators ++ [generator]) = some (position.turn count) := by
  rw [after_append_singleton, reached, Option.bind_some, bouncing.move?_eq, clamp_of_lt within]

/-- A walk has no end, and every step is one phase further. -/
theorem Bouncing.after_clamp_eq (bouncing : mode.Bouncing) (several : 2 ≤ count)
    (start : TrackerPosition) (generators : List Generator) :
    ∃ position, mode.after count (start.clamp count) generators = some position ∧
      position.index < count ∧
      position.phase count ≡ start.phase count + generators.length [MOD bounceRound count] := by
  induction generators using List.reverseRecOn with
  | nil => exact ⟨start.clamp count, rfl, start.clamp_lt (by omega), by rw [phase_clamp]; rfl⟩
  | append_singleton generators generator ih =>
    obtain ⟨position, reached, within, phase⟩ := ih
    refine ⟨position.turn count, bouncing.after_append_turn reached within generator, turn_lt within, ?_⟩
    rw [List.length_append, List.length_singleton, ← Nat.add_assoc]
    exact (phase_turn several within).trans (phase.add_right 1)

theorem Bouncing.after_eq (bouncing : mode.Bouncing) (several : 2 ≤ count) (start : TrackerPosition)
    {generators : List Generator} (moved : generators ≠ []) :
    ∃ position, mode.after count start generators = some position ∧ position.index < count ∧
      position.phase count ≡ start.phase count + generators.length [MOD bounceRound count] := by
  rw [← bouncing.after_clamp moved]
  exact bouncing.after_clamp_eq several start generators

/-- What the last step of a walk turns from is one phase behind the end of the walk. -/
theorem Bouncing.exists_turn (bouncing : mode.Bouncing) (several : 2 ≤ count) (start : TrackerPosition)
    {generators : List Generator} (moved : generators ≠ []) :
    ∃ position : TrackerPosition, mode.after count start generators = some (position.turn count) ∧
      position.index < count ∧
      position.phase count + 1 ≡ start.phase count + generators.length [MOD bounceRound count] := by
  obtain ⟨before, last, rfl⟩ : ∃ before last, generators = before ++ [last] :=
    ⟨_, _, (List.dropLast_concat_getLast moved).symm⟩
  obtain ⟨position, reached, within, phase⟩ := bouncing.after_clamp_eq several start before
  refine ⟨position, ?_, within, ?_⟩
  · rw [← bouncing.after_clamp moved]
    exact bouncing.after_append_turn reached within last
  · rw [List.length_append, List.length_singleton, ← Nat.add_assoc]
    exact phase.add_right 1

/-- What holds of the walk of a tracker back and forth. The first child that counts is the one that the
start names, and the lists hold what the generator is before each step. -/
structure Bounces (mode : TrackerMode) (count : Nat) (start : TrackerPosition) : Prop where
  /-- The number of steps tells the child; so the walk never comes to an end. -/
  course : ∀ generators, generators ≠ [] → ∃ position,
    mode.after count start generators = some position ∧ position.index =
      bounceChild count ((start.phase count + generators.length) % bounceRound count)
  /-- Neighbours follow one another, from the child that the start names. -/
  beside : ∀ generators generator position next,
    mode.after count (start.clamp count) generators = some position →
    mode.after count (start.clamp count) (generators ++ [generator]) = some next →
      position.index < count ∧ next.index < count ∧
        (next.index = position.index + 1 ∨ position.index = next.index + 1)
  /-- A round leads back to the child that it began at, the one of the start included. -/
  returns : ∀ generators round position, round.length = bounceRound count →
    mode.after count (start.clamp count) generators = some position → ∃ again,
      mode.after count (start.clamp count) (generators ++ round) = some again ∧
        again.index = position.index
  /-- After a round that does not begin at the start the way is the same as well. -/
  periodic : ∀ generators round, generators ≠ [] → round.length = bounceRound count →
    mode.after count start (generators ++ round) = mode.after count start generators
  /-- Whenever a round begins, every child is played in it. -/
  everyChild : ∀ generators round, round.length = bounceRound count → ∀ child < count,
    ∃ steps position, steps ≠ [] ∧ steps <+: round ∧
      mode.after count start (generators ++ steps) = some position ∧ position.index = child
  endless : ∀ position generator, mode.advance count position generator ≠ (.finished, generator)
  /-- Nothing is drawn. -/
  sober : ∀ position generator, (mode.advance count position generator).2 = generator

/-- Within a round every phase comes up. -/
theorem exists_phase {round phase : Nat} (begins : Nat) (below : phase < round) :
    ∃ steps, 0 < steps ∧ steps ≤ round ∧ (begins + steps) % round = phase := by
  have rest := Nat.mod_lt (begins + (round - phase)) (Nat.zero_lt_of_lt below)
  refine ⟨round - (begins + (round - phase)) % round, by omega, Nat.sub_le .., ?_⟩
  have parts := Nat.div_add_mod (begins + (round - phase)) round
  have sum : begins + (round - (begins + (round - phase)) % round) =
      phase + round * ((begins + (round - phase)) / round) := by omega
  rw [sum, Nat.add_mul_mod_self_left, Nat.mod_eq_of_lt below]

/-- Trackers that bounce walk over their children back and forth, from wherever they start. -/
theorem bounces (bouncing : mode.Bouncing) (several : 2 ≤ count) (start : TrackerPosition) :
    mode.Bounces count start where
  course := by
    intro generators moved
    obtain ⟨position, reached, within, phase⟩ := bouncing.after_eq several start moved
    refine ⟨position, reached, ?_⟩
    rw [← phase, bounceChild_phase several within]
  beside := by
    intro generators generator position next here there
    obtain ⟨reached, same, within, -⟩ := bouncing.after_clamp_eq several start generators
    obtain rfl := Option.some.inj (same.symm.trans here)
    obtain rfl := Option.some.inj ((bouncing.after_append_turn here within generator).symm.trans there)
    exact ⟨within, turn_lt within, turn_beside several within⟩
  returns := by
    intro generators round position whole here
    obtain ⟨reached, same, within, phase⟩ := bouncing.after_clamp_eq several start generators
    obtain rfl := Option.some.inj (same.symm.trans here)
    obtain ⟨again, comes, inside, further⟩ :=
      bouncing.after_clamp_eq several start (generators ++ round)
    rw [List.length_append, whole, ← Nat.add_assoc] at further
    refine ⟨again, comes, ?_⟩
    rw [← bounceChild_phase several inside, ← bounceChild_phase several within,
      further.trans (Nat.add_modEq_right.trans phase.symm)]
  periodic := by
    intro generators round moved whole
    obtain ⟨position, early, within, phase⟩ := bouncing.exists_turn several start moved
    obtain ⟨later, late, inside, further⟩ :=
      bouncing.exists_turn several start (List.append_ne_nil_of_left_ne_nil moved round)
    rw [List.length_append, whole, ← Nat.add_assoc] at further
    have around : later.phase count ≡ position.phase count [MOD bounceRound count] :=
      Nat.ModEq.add_right_cancel' 1 (further.trans (Nat.add_modEq_right.trans phase.symm))
    rw [early, late, turn_congr several inside within around]
  everyChild := by
    intro generators round whole child within
    have below : child < bounceRound count := by
      simp only [bounceRound]
      omega
    obtain ⟨steps, positive, short, phase⟩ :=
      exists_phase (start.phase count + generators.length) below
    have size : (round.take steps).length = steps := by
      rw [List.length_take]
      omega
    have moved : round.take steps ≠ [] := List.ne_nil_of_length_pos (by omega)
    obtain ⟨position, reached, inside, around⟩ :=
      bouncing.after_eq several start (List.append_ne_nil_of_right_ne_nil generators moved)
    refine ⟨round.take steps, position, moved, List.take_prefix .., reached, ?_⟩
    rw [List.length_append, size, ← Nat.add_assoc] at around
    rw [← bounceChild_phase several inside, around, phase, bounceChild, if_pos (by omega)]
  endless := by
    intro position generator
    rw [bouncing.advance_eq]
    simp
  sober := by
    intro position generator
    rw [bouncing.advance_eq]

/-- Three children, and a start behind the last of them. -/
theorem bounces_trio : TrackerMode.pingPong.Bouncing ∧ 2 ≤ 3 ∧
    TrackerMode.pingPong.Bounces 3 ⟨9, .backward⟩ :=
  ⟨.inr rfl, by decide, bounces (.inr rfl) (by decide) ⟨9, .backward⟩⟩

end TrackerMode

end LightingDesk
