import LightingDesk.Act

/-!
Which guards match a branch: those that hold its label between blanks, in any case of its letters.
-/

namespace LightingDesk

namespace Text

/-- No blank stands at either end of the text. -/
structure IsTrimmed (text : List Char) : Prop where
  head : ∀ c, text.head? = some c → isBlank c = false
  last : ∀ c, text.getLast? = some c → isBlank c = false

/-- A text is another one with blanks around it. -/
def Surrounds (text core : List Char) : Prop :=
  ∃ front back, text = front ++ core ++ back ∧
    (∀ c ∈ front, isBlank c = true) ∧ ∀ c ∈ back, isBlank c = true

theorem trimStart_eq_self {text : List Char}
    (head : ∀ c, text.head? = some c → isBlank c = false) : trimStart text = text := by
  cases text with
  | nil => rfl
  | cons c rest => exact trimStart_cons (head c rfl) rest

theorem head?_trimStart {text : List Char} {c : Char} (first : (trimStart text).head? = some c) :
    isBlank c = false := by
  have passed := List.head?_dropWhile_not isBlank text
  rw [trimStart] at first
  simpa [first] using passed

theorem exists_trimStart (text : List Char) :
    ∃ front, text = front ++ trimStart text ∧ ∀ c ∈ front, isBlank c = true :=
  ⟨text.takeWhile isBlank, List.takeWhile_append_dropWhile.symm,
    fun _ => List.all_eq_true.1 List.all_takeWhile _⟩

theorem trimStart_append {front : List Char} (blank : ∀ c ∈ front, isBlank c = true)
    (rest : List Char) : trimStart (front ++ rest) = trimStart rest :=
  List.dropWhile_append_of_pos blank

theorem trimEnd_eq (text : List Char) : trimEnd text = (trimStart text.reverse).reverse := rfl

/-- A text is what is left when it is trimmed, with the blanks that are taken away around it. -/
theorem surrounds_trimEnd_trimStart (text : List Char) :
    IsTrimmed (trimEnd (trimStart text)) ∧ Surrounds text (trimEnd (trimStart text)) := by
  obtain ⟨front, split, before⟩ := exists_trimStart text
  obtain ⟨back, rest, after⟩ := exists_trimStart (trimStart text).reverse
  rw [List.reverse_eq_append_iff, ← trimEnd_eq] at rest
  refine ⟨⟨?_, ?_⟩, front, back.reverse, ?_, before, by simpa using after⟩
  · intro c first
    have same : (trimStart text).head? = some c := by
      rw [rest, List.head?_append, first, Option.some_or]
    exact head?_trimStart same
  · intro c last
    rw [trimEnd_eq, List.getLast?_reverse] at last
    exact head?_trimStart last
  · rw [List.append_assoc, ← rest, ← split]

/-- Trimming takes away the blanks at both ends, and nothing else. -/
theorem toList_trim_eq_iff {text : String} {core : List Char} :
    (trim text).toList = core ↔ IsTrimmed core ∧ Surrounds text.toList core := by
  rw [trim, String.toList_ofList]
  constructor
  · rintro rfl
    exact surrounds_trimEnd_trimStart text.toList
  · rintro ⟨trimmed, front, back, split, before, after⟩
    have backwards : trimStart core.reverse = core.reverse :=
      trimStart_eq_self (by simpa using trimmed.last)
    rw [split, List.append_assoc, trimStart_append before]
    cases core with
    | nil =>
      have none := trimStart_append after []
      rw [List.append_nil] at none
      rw [List.nil_append, none]
      rfl
    | cons c rest =>
      rw [trimStart_eq_self (by simpa using trimmed.head), trimEnd_eq, List.reverse_append,
        trimStart_append (by simpa using after), backwards, List.reverse_reverse]

theorem toLower_of_isBlank {c : Char} (blank : isBlank c = true) : c.toLower = c := by
  have other : ¬(c.toNat ≥ 65 ∧ c.toNat ≤ 90) := by
    simp only [isBlank, Bool.or_eq_true, Bool.and_eq_true, decide_eq_true_eq, beq_iff_eq] at blank
    omega
  exact dif_neg other

/-- Whether a text is trimmed does not depend on the case of its letters. -/
theorem IsTrimmed.of_map_toLower {text : List Char} (trimmed : IsTrimmed (text.map Char.toLower)) :
    IsTrimmed text := by
  have shows {c : Char} (lower : isBlank c.toLower = false) : isBlank c = false := by
    cases blank : isBlank c with
    | false => rfl
    | true => rw [toLower_of_isBlank blank, blank] at lower; cases lower
  refine ⟨fun c first => shows (trimmed.head _ ?_), fun c last => shows (trimmed.last _ ?_)⟩
  · rw [List.head?_map, first, Option.map_some]
  · rw [List.getLast?_map, last, Option.map_some]

end Text

theorem isTrimmed_branchLabel (outcome : Bool) : Text.IsTrimmed (branchLabel outcome).toList := by
  cases outcome with
  | false => exact ⟨by rintro _ ⟨⟩; decide, by rintro _ ⟨⟩; decide⟩
  | true => exact ⟨by rintro _ ⟨⟩; decide, by rintro _ ⟨⟩; decide⟩

theorem map_toLower_branchLabel (outcome : Bool) :
    (branchLabel outcome).toList.map Char.toLower = (branchLabel outcome).toList := by
  cases outcome <;> rfl

/-- The guards that match a branch are its label, in any case of its letters and with blanks around
it. -/
theorem Connection.servesBranch_branchLabel_iff {connection : Connection} {outcome : Bool} :
    connection.servesBranch (branchLabel outcome) = true ↔
      connection.kind = .conditional ∧ ∃ guard, connection.guard = some guard ∧
        ∃ word, Text.Surrounds guard.toList word ∧
          word.map Char.toLower = (branchLabel outcome).toList := by
  have matched (guard : String) :
      Text.sameLetters (Text.trim guard) (branchLabel outcome) = true ↔
        ∃ word, Text.Surrounds guard.toList word ∧
          word.map Char.toLower = (branchLabel outcome).toList := by
    rw [Text.sameLetters, beq_iff_eq, map_toLower_branchLabel]
    constructor
    · intro same
      exact ⟨_, (Text.toList_trim_eq_iff.1 rfl).2, same⟩
    · rintro ⟨word, surrounds, same⟩
      have trimmed : Text.IsTrimmed word := .of_map_toLower (same ▸ isTrimmed_branchLabel outcome)
      rw [Text.toList_trim_eq_iff.2 ⟨trimmed, surrounds⟩, same]
  rw [servesBranch, Bool.and_eq_true, beq_iff_eq, Option.any_eq_true]
  simp only [matched]

example :
    (Connection.mk ⟨"edge"⟩ ⟨"gate"⟩ ⟨"near"⟩ .conditional (some "\tFALSE ") none).servesBranch
      (branchLabel false) = true := by
  decide

end LightingDesk
