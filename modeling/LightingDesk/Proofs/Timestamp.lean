import LightingDesk.Timestamp
/-!
The text of an instant reads back as the instant: leap seconds and years of more than four digits
included.
-/

namespace LightingDesk

/-- A digit is no blank, so nothing is trimmed in front of one. -/
theorem Text.isBlank_eq_false_of_isDigit {c : Char} (digit : c.isDigit = true) :
    Text.isBlank c = false := by
  simp only [Char.isDigit, Bool.and_eq_true, decide_eq_true_eq, UInt32.le_iff_toNat_le] at digit
  have least : 48 ≤ c.toNat := digit.1
  have most : c.toNat ≤ 57 := digit.2
  simp only [Text.isBlank, Bool.or_eq_false_iff, Bool.and_eq_false_iff, decide_eq_false_iff_not,
    beq_eq_false_iff_ne]
  omega

namespace Timestamp

/-! ### Digits -/

theorem isDigit_ofNat (value : Nat) : (Char.ofNat (48 + value % 10)).isDigit = true := by
  have small : value % 10 < 10 := Nat.mod_lt _ (by decide)
  revert small
  generalize value % 10 = digit
  revert digit
  decide

theorem toNat_ofNat (value : Nat) : (Char.ofNat (48 + value % 10)).toNat - 48 = value % 10 := by
  have small : value % 10 < 10 := Nat.mod_lt _ (by decide)
  revert small
  generalize value % 10 = digit
  revert digit
  decide

@[simp] theorem length_digits (count value : Nat) : (digits count value).length = count := by
  induction count generalizing value with
  | zero => rfl
  | succ count ih => simp [digits, ih]

theorem isDigit_of_mem_digits {count value : Nat} {c : Char} (member : c ∈ digits count value) :
    c.isDigit = true := by
  induction count generalizing value with
  | zero => cases member
  | succ count ih =>
      rcases List.mem_append.1 member with earlier | last
      · exact ih earlier
      · exact List.mem_singleton.1 last ▸ isDigit_ofNat value

/-- The digits of a number are worth the number, as far as there are enough of them. -/
theorem foldl_digits (count value : Nat) :
    (digits count value).foldl (fun value c => value * 10 + (c.toNat - 48)) 0 =
      value % Nat.pow 10 count := by
  induction count generalizing value with
  | zero => simp [digits, Nat.mod_one]
  | succ count ih =>
      simp only [digits, List.foldl_append, ih, List.foldl_cons, List.foldl_nil, toNat_ofNat]
      rw [show Nat.pow 10 (count + 1) = 10 * Nat.pow 10 count from Nat.mul_comm _ _, Nat.mod_mul]
      omega

theorem digits_eq_cons (count value : Nat) :
    ∃ c rest, digits (count + 1) value = c :: rest ∧ c.isDigit = true := by
  cases shape : digits (count + 1) value with
  | nil => exact absurd (congrArg List.length shape) (by simp)
  | cons c rest =>
      exact ⟨c, rest, rfl, isDigit_of_mem_digits (shape ▸ List.mem_cons_self : c ∈ _)⟩

theorem isEmpty_digits {count : Nat} (positive : 0 < count) (value : Nat) :
    (digits count value).isEmpty = false := by
  cases count with
  | zero => cases positive
  | succ count =>
      obtain ⟨c, rest, shape, -⟩ := digits_eq_cons count value
      simp [shape]

theorem takeWhile_digits (count value : Nat) {rest : List Char}
    (ends : ∀ c ∈ rest.head?, c.isDigit = false) :
    (digits count value ++ rest).takeWhile Char.isDigit = digits count value := by
  rw [List.takeWhile_append_of_pos fun c => isDigit_of_mem_digits]
  cases rest with
  | nil => simp
  | cons c rest => simp [ends c rfl]

/-- A run of digits is taken as a whole if it is as long as may be or something else follows. -/
theorem takeNumber_digits (limit : Nat) {count : Nat} (value : Nat) (rest : List Char)
    (positive : 0 < count) (fits : count ≤ limit)
    (ends : count = limit ∨ ∀ c ∈ rest.head?, c.isDigit = false) :
    takeNumber limit (digits count value ++ rest) = some (value % Nat.pow 10 count, rest) := by
  have taken : ((digits count value ++ rest).take limit).takeWhile Char.isDigit =
      digits count value := by
    rw [List.take_append, List.take_of_length_le (by simpa using fits), length_digits]
    apply takeWhile_digits
    rcases ends with rfl | ends
    · simp
    · intro c first
      cases rest with
      | nil => simp at first
      | cons c' rest =>
          cases room : limit - count with
          | zero => simp [room] at first
          | succ room' =>
              rw [room] at first
              exact ends c first
  rw [takeNumber, taken]
  simp only [isEmpty_digits positive, Bool.false_eq_true, if_false, foldl_digits, length_digits]
  rw [List.drop_left' (length_digits count value)]

theorem trimStart_digits (count value : Nat) (rest : List Char) :
    Text.trimStart (digits (count + 1) value ++ rest) = digits (count + 1) value ++ rest := by
  obtain ⟨c, tail, shape, digit⟩ := digits_eq_cons count value
  rw [shape, List.cons_append]
  exact Text.trimStart_cons (Text.isBlank_eq_false_of_isDigit digit) _

theorem takeTwo_digits {value : Nat} (small : value < 100) (rest : List Char) :
    takeTwo (digits 2 value ++ rest) = some (value, rest) := by
  rw [takeTwo, trimStart_digits 1,
    takeNumber_digits 2 value rest (by decide) Nat.le.refl (.inl rfl),
    Nat.mod_eq_of_lt (show value < Nat.pow 10 2 from small)]

theorem takeSymbol_cons (symbol : Char) (shows : Text.isBlank symbol = false) (rest : List Char) :
    takeSymbol symbol (symbol :: rest) = some rest := by
  simp [takeSymbol, Text.trimStart_cons shows]

/-! ### Parts of the text -/

theorem takeYear_text {year : Int} (least : -262143 ≤ year) (most : year ≤ 262142)
    (rest : List Char) : takeYear (yearText year ++ '-' :: rest) = some (year, '-' :: rest) := by
  have ends : ∀ c ∈ ('-' :: rest).head?, c.isDigit = false := by simp
  unfold yearText
  split
  · next small =>
      obtain ⟨c, tail, shape, digit⟩ := digits_eq_cons 3 year.toNat
      have number := takeNumber_digits 4 year.toNat ('-' :: rest) (by decide) Nat.le.refl (.inl rfl)
      have noMinus : c ≠ '-' := by rintro rfl; exact absurd digit (by decide)
      have noPlus : c ≠ '+' := by rintro rfl; exact absurd digit (by decide)
      have fits : year.toNat < Nat.pow 10 4 := show year.toNat < 10000 by omega
      rw [Nat.mod_eq_of_lt fits] at number
      rw [takeYear, trimStart_digits]
      rw [shape] at number ⊢
      simp only [List.cons_append] at number ⊢
      split
      · next same => exact absurd (List.cons.inj same).1 noMinus
      · next same => exact absurd (List.cons.inj same).1 noPlus
      · simp only [number, Option.map_some, Option.some.injEq, Prod.mk.injEq, and_true]
        omega
  · next large =>
      -- A year of more than four digits, or one before the year zero, has a sign and all digits.
      obtain ⟨count, same, positive, fits⟩ : ∃ count, (if year.natAbs < 10000 then 4 else
          if year.natAbs < 100000 then 5 else 6) = count ∧ 0 < count ∧
            year.natAbs < Nat.pow 10 count := by
        refine ⟨_, rfl, ?_⟩
        simp only [Nat.pow_eq]
        split
        · omega
        · split <;> omega
      have number := takeNumber_digits (digits count year.natAbs ++ '-' :: rest).length year.natAbs
        ('-' :: rest) positive (by simp) (.inr ends)
      rw [Nat.mod_eq_of_lt fits] at number
      simp only [same]
      split
      · next negative =>
          rw [List.cons_append, takeYear, Text.trimStart_cons (by decide)]
          simp only [number, Option.map_some, Option.some.injEq, Prod.mk.injEq, and_true]
          omega
      · next positive =>
          rw [List.cons_append, takeYear, Text.trimStart_cons (by decide)]
          simp only [number, Option.map_some, Option.some.injEq, Prod.mk.injEq, and_true]
          omega

/-- Three, six or nine digits of a fraction of a second. -/
theorem takeFraction_digits {count value : Nat} (positive : 0 < count) (few : count ≤ 9)
    (fits : value < Nat.pow 10 count) {rest : List Char} (ends : ∀ c ∈ rest.head?, c.isDigit = false) :
    takeFraction ('.' :: digits count value ++ rest) =
      some (value * Nat.pow 10 (9 - count), rest) := by
  have kept : (digits count value).take 9 = digits count value :=
    List.take_of_length_le (by simpa using few)
  simp only [takeFraction, List.cons_append, takeWhile_digits count value ends,
    isEmpty_digits positive, Bool.false_eq_true, if_false, kept, foldl_digits,
    Nat.mod_eq_of_lt fits, length_digits]
  rw [List.drop_left' (length_digits count value)]

theorem takeFraction_text {nanosecond : Nat} (small : nanosecond < 1000000000) (rest : List Char) :
    takeFraction (fractionText nanosecond ++ 'Z' :: rest) = some (nanosecond, 'Z' :: rest) := by
  have ends : ∀ c ∈ ('Z' :: rest).head?, c.isDigit = false := by simp
  unfold fractionText
  split
  · next none => simp [takeFraction, none]
  · split
    · have few : nanosecond / 1000000 < Nat.pow 10 3 := show nanosecond / 1000000 < 1000 by omega
      have scale : Nat.pow 10 (9 - 3) = 1000000 := rfl
      rw [takeFraction_digits (by decide) (by decide) few ends]
      simp only [scale, Option.some.injEq, Prod.mk.injEq, and_true]
      omega
    · split
      · have few : nanosecond / 1000 < Nat.pow 10 6 := show nanosecond / 1000 < 1000000 by omega
        have scale : Nat.pow 10 (9 - 6) = 1000 := rfl
        rw [takeFraction_digits (by decide) (by decide) few ends]
        simp only [scale, Option.some.injEq, Prod.mk.injEq, and_true]
        omega
      · have few : nanosecond < Nat.pow 10 9 := small
        have scale : Nat.pow 10 (9 - 9) = 1 := rfl
        rw [takeFraction_digits (by decide) (by decide) few ends, scale, Nat.mul_one]

theorem takeZone_text : takeZone ['Z'] = some (0, []) := by
  have trimmed : Text.trimStart ['Z'] = ['Z'] := Text.trimStart_cons (by decide) []
  have other : Text.sameLetters (String.ofList ('Z' :: [].take 2)) "UTC" = false := by decide
  simp only [takeZone, trimmed, other, Bool.false_eq_true, if_false, true_or, if_true]

theorem parse?_render (stamp : Timestamp) : parse? stamp.render = some stamp := by
  obtain ⟨year, month, day, second, nanosecond, valid⟩ := stamp
  have ⟨least, most, _, twelve, _, length, midnight, fraction⟩ := valid
  have days : day < 100 := by
    refine Nat.lt_of_le_of_lt length ?_
    unfold Calendar.daysInMonth
    split
    any_goals decide
    split <;> decide
  have hours : second / 3600 < 100 := by omega
  have minutes : second / 60 % 60 < 100 := by omega
  have seconds : second % 60 + (if nanosecond < 1000000000 then 0 else 1) < 100 := by
    split <;> omega
  have part : nanosecond % 1000000000 < 1000000000 := Nat.mod_lt _ (by decide)
  have inTime : ¬(¬(Text.trimStart []).isEmpty = true ∨ 24 ≤ second / 3600 ∨
      60 ≤ second / 60 % 60 ∨
        61 ≤ second % 60 + if nanosecond < 1000000000 then 0 else 1) := by
    rintro (blanks | late)
    · exact blanks rfl
    · split at late <;> omega
  have text : (render ⟨year, month, day, second, nanosecond, valid⟩).toList =
      yearText year ++ '-' :: (digits 2 month ++ '-' :: (digits 2 day ++ 'T' ::
        (digits 2 (second / 3600) ++ ':' :: (digits 2 (second / 60 % 60) ++ ':' ::
          (digits 2 (second % 60 + if nanosecond < 1000000000 then 0 else 1) ++
            (fractionText (nanosecond % 1000000000) ++ ['Z'])))))) := by
    simp only [render, String.toList_ofList, List.append_assoc, List.cons_append]
  unfold parse?
  rw [text]
  refine Option.bind_eq_some_iff.2 ⟨_, takeYear_text least most _, ?_⟩
  refine Option.bind_eq_some_iff.2 ⟨_, takeSymbol_cons '-' (by decide) _, ?_⟩
  refine Option.bind_eq_some_iff.2 ⟨_, takeTwo_digits (show month < 100 by omega) _, ?_⟩
  refine Option.bind_eq_some_iff.2 ⟨_, takeSymbol_cons '-' (by decide) _, ?_⟩
  refine Option.bind_eq_some_iff.2 ⟨_, takeTwo_digits days _, ?_⟩
  refine Option.bind_eq_some_iff.2 ⟨_, takeTwo_digits hours _, ?_⟩
  refine Option.bind_eq_some_iff.2 ⟨_, takeSymbol_cons ':' (by decide) _, ?_⟩
  refine Option.bind_eq_some_iff.2 ⟨_, takeTwo_digits minutes _, ?_⟩
  refine Option.bind_eq_some_iff.2 ⟨_, takeSymbol_cons ':' (by decide) _, ?_⟩
  refine Option.bind_eq_some_iff.2 ⟨_, takeTwo_digits seconds _, ?_⟩
  refine Option.bind_eq_some_iff.2 ⟨_, takeFraction_text part _, ?_⟩
  refine Option.bind_eq_some_iff.2 ⟨_, takeZone_text, ?_⟩
  simp only [if_neg inTime]
  -- A leap second is written as second 60, and its nanoseconds count from there.
  rcases Nat.lt_or_ge nanosecond 1000000000 with plain | leap
  · have noLeap : second % 60 ≠ 60 := by omega
    have clock : second / 3600 * 3600 + second / 60 % 60 * 60 + second % 60 = second := by omega
    simp only [if_pos plain, Nat.add_zero, if_neg noLeap, clock, Nat.mod_eq_of_lt plain, ofFields?,
      dif_pos valid, Option.bind_eq_bind, Option.bind_some, shifted?, if_true]
  · have last : second % 60 = 59 := by omega
    have clock : second / 3600 * 3600 + second / 60 % 60 * 60 + 59 = second := by omega
    have whole : nanosecond % 1000000000 + 1000000000 = nanosecond := by omega
    simp only [if_neg (Nat.not_lt.2 leap), last, if_true, clock, whole, ofFields?, dif_pos valid,
      Option.bind_eq_bind, Option.bind_some, shifted?]

end Timestamp

end LightingDesk
