import LightingDesk.Decimal.Layout
import LightingDesk.Decimal.Literal
/-!
The shape of written numbers: digits without a zero in front of them, perhaps digits behind a point,
and perhaps a power of ten.
-/

namespace LightingDesk.Decimal

/-! ### Digits -/

def AreDigits (characters : List Char) : Prop := ∀ c ∈ characters, c.isDigit = true

theorem le_toNat_of_isDigit {c : Char} (digit : c.isDigit = true) :
    48 ≤ c.toNat ∧ c.toNat ≤ 57 := by
  simp only [Char.isDigit, Bool.and_eq_true, decide_eq_true_eq, UInt32.le_iff_toNat_le] at digit
  exact digit

theorem areDigits_digitText (value : Nat) : AreDigits (digitText value) :=
  fun _ => Nat.isDigit_of_mem_toDigits (by decide) (by decide)

theorem areDigits_zeros (count : Nat) : AreDigits (zeros count) := fun c member => by
  rw [zeros, List.mem_replicate] at member
  rw [member.2]
  rfl

theorem AreDigits.append {first second : List Char} (one : AreDigits first)
    (other : AreDigits second) : AreDigits (first ++ second) := fun c member =>
  (List.mem_append.1 member).elim (one c) (other c)

theorem head?_append {first : List Char} (nonempty : first ≠ []) (second : List Char) :
    (first ++ second).head? = first.head? := by
  cases first with
  | nil => exact absurd rfl nonempty
  | cons c rest => rfl

theorem head?_digitText {value : Nat} (zero : (digitText value).head? = some '0') : value = 0 := by
  induction value using Nat.strongRecOn with
  | ind value ih =>
      rcases Nat.lt_or_ge value 10 with small | large
      · rw [digitText, Nat.toDigits_of_lt_base small] at zero
        exact Nat.digitChar_eq_zero.1 (Option.some.inj zero)
      · have shape := Nat.toDigits_of_base_le (b := 10) (by decide) large
        rw [digitText, shape, head?_append Nat.toDigits_ne_nil] at zero
        have zero := ih (value / 10) (Nat.div_lt_self (by omega) (by decide)) zero
        omega

theorem valueOfDigits_digitText (value : Nat) :
    valueOfDigits ((digitText value).map digitOf) = value := by
  have read := Nat.ofDigitChars_ten_toDigits (n := value)
  rw [Nat.ofDigitChars_eq_foldl] at read
  simp only [Nat.mul_comm 10] at read
  rw [valueOfDigits, List.foldl_map]
  exact read

theorem valueOfDigits_append (first second : List Nat) :
    valueOfDigits (first ++ second) =
      valueOfDigits first * Nat.pow 10 second.length + valueOfDigits second := by
  have shifted : ∀ (digits : List Nat) (start : Nat),
      digits.foldl (fun value digit => value * 10 + digit) start =
        start * Nat.pow 10 digits.length + valueOfDigits digits := by
    intro digits
    induction digits with
    | nil => simp [valueOfDigits]
    | cons digit rest ih =>
        intro start
        rw [valueOfDigits, List.foldl_cons, List.foldl_cons, ih, ih (0 * 10 + digit), List.length_cons,
          Nat.pow_eq, Nat.pow_eq, Nat.pow_succ']
        simp only [Nat.add_mul, Nat.mul_assoc, Nat.zero_mul, Nat.zero_add, Nat.add_assoc]
  rw [valueOfDigits, List.foldl_append, shifted]
  rfl

theorem valueOfDigits_cons (digit : Nat) (rest : List Nat) :
    valueOfDigits (digit :: rest) = digit * Nat.pow 10 rest.length + valueOfDigits rest := by
  have split := valueOfDigits_append [digit] rest
  have first : valueOfDigits [digit] = digit := by simp [valueOfDigits]
  rwa [first] at split

theorem valueOfDigits_zeros (count : Nat) : valueOfDigits ((zeros count).map digitOf) = 0 := by
  induction count with
  | zero => rfl
  | succ count ih =>
      rw [zeros, List.replicate_succ', List.map_append, valueOfDigits_append, ← zeros, ih]
      rfl

theorem valueOfDigits_lt {characters : List Char} (digits : AreDigits characters) :
    valueOfDigits (characters.map digitOf) < Nat.pow 10 characters.length := by
  induction characters with
  | nil => decide
  | cons c rest ih =>
      have least := ih fun d member => digits d (List.mem_cons_of_mem c member)
      have small : digitOf c ≤ 9 := by
        have most := (le_toNat_of_isDigit (digits c List.mem_cons_self)).2
        unfold digitOf
        omega
      rw [List.map_cons, valueOfDigits_cons, List.length_map, List.length_cons]
      calc digitOf c * Nat.pow 10 rest.length + valueOfDigits (rest.map digitOf)
          < digitOf c * Nat.pow 10 rest.length + Nat.pow 10 rest.length :=
            Nat.add_lt_add_left least _
        _ = (digitOf c + 1) * Nat.pow 10 rest.length := (Nat.succ_mul _ _).symm
        _ ≤ 10 * Nat.pow 10 rest.length := Nat.mul_le_mul_right _ (by omega)
        _ = Nat.pow 10 (rest.length + 1) := Nat.pow_succ'.symm

theorem toList_toString (value : Int) :
    (toString value).toList = sign (value < 0) ++ digitText value.natAbs := by
  cases value with
  | ofNat value =>
      have text : toString (Int.ofNat value) = Nat.repr value := rfl
      rw [text]
      simp [sign, digitText, Int.not_lt.2 (Int.natCast_nonneg value)]
  | negSucc value =>
      have text : toString (Int.negSucc value) = "-" ++ Nat.repr (value + 1) := rfl
      rw [text]
      simp [sign, digitText, Int.negSucc_lt_zero]

theorem toList_toString_natCast (value : Nat) :
    (toString (value : Int)).toList = digitText value := by
  have positive : ¬(value : Int) < 0 := Int.not_lt.2 (Int.natCast_nonneg value)
  simp only [toList_toString, sign, decide_eq_true_eq, if_neg positive, Int.natAbs_natCast,
    List.nil_append]

/-- Digits are taken up to the first character that is none. -/
theorem takeDigits_append {digits rest : List Char} (all : AreDigits digits)
    (ends : ∀ c ∈ rest.head?, c.isDigit = false) :
    Literal.takeDigits (digits ++ rest) = (digits.map digitOf, rest) := by
  have here : rest.takeWhile Char.isDigit = [] ∧ rest.dropWhile Char.isDigit = rest := by
    cases rest with
    | nil => exact ⟨rfl, rfl⟩
    | cons c rest => simp [ends c rfl]
  rw [Literal.takeDigits, List.takeWhile_append_of_pos all, List.dropWhile_append_of_pos all,
    here.1, here.2, List.append_nil]

/-! ### Parts of a number -/

/-- Digits in front of the point: a zero stands there alone. -/
structure IsWhole (characters : List Char) : Prop where
  nonempty : characters ≠ []
  digits : AreDigits characters
  alone : characters.head? = some '0' → characters.length ≤ 1

/-- No digit zero stands in front of others. -/
theorem IsWhole.head?_map {characters : List Char} (whole : IsWhole characters) :
    ((characters.map digitOf).head? == some 0 && decide (1 < (characters.map digitOf).length)) =
      false := by
  cases shape : characters with
  | nil => exact absurd shape whole.nonempty
  | cons c rest =>
      have digit := whole.digits c (shape ▸ List.mem_cons_self)
      have alone := whole.alone
      rw [shape] at alone
      by_cases zero : c = '0'
      · have short := alone (congrArg some zero)
        simpa using fun _ => List.length_eq_zero_iff.1 (by simpa using short)
      · have positive : digitOf c ≠ 0 := by
          intro none
          have least := (le_toNat_of_isDigit digit).1
          rw [digitOf] at none
          exact zero (Char.toNat_inj.1 (by change c.toNat = 48; omega))
        simp [positive]

/-- Nothing, or a point and digits. -/
def IsFraction (characters : List Char) : Prop :=
  characters = [] ∨ ∃ digits, digits ≠ [] ∧ AreDigits digits ∧ characters = '.' :: digits

/-- Nothing, or a power of ten with its sign. -/
def IsPower (characters : List Char) : Prop :=
  characters = [] ∨ ∃ sign digits, (sign = '-' ∨ sign = '+') ∧ digits ≠ [] ∧ AreDigits digits ∧
    characters = 'e' :: sign :: digits

theorem isWhole_digitText (value : Nat) : IsWhole (digitText value) where
  nonempty := Nat.toDigits_ne_nil
  digits := areDigits_digitText value
  alone zero := by
    rw [head?_digitText zero]
    decide

theorem isPower_exponentText (exponent : Int) : IsPower ('e' :: exponentText exponent) := by
  refine .inr ⟨_, _, ?_, Nat.toDigits_ne_nil, areDigits_digitText exponent.natAbs, rfl⟩
  split <;> simp

/-- Digits that are cut off at a place, the first of them not alone. -/
theorem IsWhole.take {characters : List Char} (whole : IsWhole characters) {count : Nat}
    (positive : 0 < count) : IsWhole (characters.take count) where
  nonempty := by
    have some := List.length_pos_iff.2 whole.nonempty
    apply List.ne_nil_of_length_pos
    rw [List.length_take]
    omega
  digits c member := whole.digits c (List.mem_of_mem_take member)
  alone zero := by
    rw [List.head?_take, if_neg (by omega)] at zero
    rw [List.length_take]
    have short := whole.alone zero
    omega

/-! ### Numbers -/

/-- The number that is written out is the decimal: it has its digits, with zeros behind them up to the
first place behind the point perhaps, and the power of ten that goes with them. -/
def Literal.Shows (literal : Literal) (number : Scaled) : Prop :=
  ∃ shift : Nat, literal.digits = number.digits * Nat.pow 10 shift ∧
    literal.lastPower = number.exponent - shift ∧ (shift = 0 ∨ literal.lastPower = -1)

/-- A number in positional form, where no zeros are put behind a zero, has digits on both sides of its
point. -/
theorem positional_parts {number : Scaled} (proper : number.digits = 0 → number.exponent ≤ 0) :
    ∃ whole digits, positional true number = whole ++ '.' :: digits ∧ IsWhole whole ∧
      (digits ≠ [] ∧ AreDigits digits) ∧ digits.length = max 1 (-number.exponent).toNat ∧
      ∀ negative, Literal.Shows ⟨negative, whole.map digitOf, digits.map digitOf, 0⟩ number := by
  have whole := isWhole_digitText number.digits
  have digits := areDigits_digitText number.digits
  have value := valueOfDigits_digitText number.digits
  have some := List.length_pos_iff.2 whole.nonempty
  unfold positional
  dsimp only
  split
  · next large =>
      refine ⟨digitText number.digits ++ zeros number.exponent.toNat, ['0'], by simp, ?_,
        ⟨by simp, by simp [AreDigits]⟩, by simp; omega,
        fun negative => ⟨number.exponent.toNat + 1, ?_, ?_, .inr rfl⟩⟩
      · refine ⟨by simp [whole.nonempty], digits.append (areDigits_zeros _), fun zero => ?_⟩
        rw [head?_append whole.nonempty] at zero
        have nothing := proper (head?_digitText zero)
        have unshifted : number.exponent.toNat = 0 := by omega
        simpa [unshifted, zeros] using whole.alone zero
      · rw [Literal.digits, valueOfDigits_append, List.map_append, valueOfDigits_append, value,
          valueOfDigits_zeros]
        simp [valueOfDigits, digitOf, zeros, Nat.pow_succ, Nat.mul_assoc]
      · simp only [Literal.lastPower, List.map_cons, List.map_nil, List.length_singleton]
        omega
  · split
    · next inside =>
        refine ⟨_, _, rfl, whole.take (by omega),
          ⟨?_, fun c member => digits c (List.mem_of_mem_drop member)⟩, ?_,
          fun negative => ⟨0, ?_, ?_, .inl rfl⟩⟩
        · apply List.ne_nil_of_length_pos
          rw [List.length_drop]
          omega
        · rw [List.length_drop]
          omega
        · rw [Literal.digits, ← List.map_append, List.take_append_drop, value, Nat.pow_eq,
            Nat.pow_zero, Nat.mul_one]
        · simp only [Literal.lastPower, List.length_map, List.length_drop]
          omega
    · next outside =>
        refine ⟨['0'], _, rfl, ⟨by decide, by simp [AreDigits], by simp⟩,
          ⟨by simp [whole.nonempty], (areDigits_zeros _).append digits⟩, ?_,
          fun negative => ⟨0, ?_, ?_, .inl rfl⟩⟩
        · simp only [zeros, List.length_append, List.length_replicate]
          omega
        · rw [Literal.digits, List.map_append, ← List.append_assoc, valueOfDigits_append, value,
            valueOfDigits_append, valueOfDigits_zeros]
          simp [valueOfDigits, digitOf]
        · simp only [Literal.lastPower, zeros, List.length_map, List.length_append,
            List.length_replicate]
          omega

theorem takeExponent_exponentText (exponent : Int) :
    Literal.takeExponent ('e' :: exponentText exponent) = some (exponent, []) := by
  have read := takeDigits_append (areDigits_digitText exponent.natAbs)
    (show ∀ c ∈ ([] : List Char).head?, c.isDigit = false by simp)
  rw [List.append_nil] at read
  have nonempty : ((digitText exponent.natAbs).map digitOf).isEmpty = false := by
    simp [(isWhole_digitText exponent.natAbs).nonempty]
  by_cases negative : exponent < 0
  · simp only [exponentText, if_pos negative, Literal.takeExponent, true_or, if_true, read, nonempty,
      Bool.false_eq_true, if_false, valueOfDigits_digitText]
    rw [show -(exponent.natAbs : Int) = exponent by omega]
  · simp only [exponentText, if_neg negative, Literal.takeExponent, true_or, if_true, read, nonempty,
      Bool.false_eq_true, if_false, valueOfDigits_digitText]
    rw [show (exponent.natAbs : Int) = exponent by omega]

/-- The number that is written out has no more digits than the decimal, or than the layout has before
the point and one behind it. -/
def Literal.IsFew (layout : Layout) (number : Scaled) (literal : Literal) : Prop :=
  literal.digits = number.digits ∨ literal.digits < Nat.pow 10 (layout.most + 1).toNat

theorem Literal.Shows.isFew {layout : Layout} {number : Scaled} {literal : Literal}
    (shows : literal.Shows number)
    (short : (digitText number.digits).length + number.exponent ≤ layout.most) :
    literal.IsFew layout number := by
  obtain ⟨shift, digits, power, unshifted | tenths⟩ := shows
  · left
    rw [digits, unshifted, Nat.pow_eq, Nat.pow_zero, Nat.mul_one]
  · right
    have below := valueOfDigits_lt (areDigits_digitText number.digits)
    rw [valueOfDigits_digitText] at below
    calc literal.digits
        = number.digits * Nat.pow 10 shift := digits
      _ < Nat.pow 10 (digitText number.digits).length * Nat.pow 10 shift :=
          Nat.mul_lt_mul_of_pos_right below (Nat.pow_pos (by decide))
      _ = Nat.pow 10 ((digitText number.digits).length + shift) := (Nat.pow_add ..).symm
      _ ≤ Nat.pow 10 (layout.most + 1).toNat := Nat.pow_le_pow_right (by decide) (by omega)

/-- A number in a layout has a point or a power of ten. -/
theorem write_parts (layout : Layout) {number : Scaled}
    (proper : number.digits = 0 → number.exponent ≤ 0) :
    ∃ whole fraction power exponent, layout.write number = whole ++ fraction ++ power ∧
      IsWhole whole ∧ IsFraction fraction ∧ IsPower power ∧ (fraction ≠ [] ∨ power ≠ []) ∧
      Literal.takeExponent power = some (exponent, []) ∧
      ∀ negative,
        Literal.Shows ⟨negative, whole.map digitOf, (fraction.drop 1).map digitOf, exponent⟩ number ∧
        Literal.IsFew layout number
          ⟨negative, whole.map digitOf, (fraction.drop 1).map digitOf, exponent⟩ := by
  have whole := isWhole_digitText number.digits
  have digits := areDigits_digitText number.digits
  have value := valueOfDigits_digitText number.digits
  unfold Layout.write
  dsimp only
  split
  · next inside =>
      obtain ⟨whole, digits, text, isWhole, ⟨some, all⟩, -, shows⟩ := positional_parts proper
      exact ⟨whole, '.' :: digits, [], 0, by simp [text], isWhole, .inr ⟨digits, some, all, rfl⟩,
        .inl rfl, .inl (List.cons_ne_nil _ _), rfl,
        fun negative => ⟨shows negative, (shows negative).isFew inside.2⟩⟩
  · split
    · next empty => exact absurd empty whole.nonempty
    · next digit one =>
        rw [one] at digits value
        refine ⟨[digit], [], _, _, rfl, ⟨by simp, digits, by simp⟩, .inl rfl,
          isPower_exponentText _, .inr (List.cons_ne_nil _ _), takeExponent_exponentText _,
          fun negative => ⟨⟨0, ?_, ?_, .inl rfl⟩, .inl value⟩⟩
        · rw [Nat.pow_eq, Nat.pow_zero, Nat.mul_one]
          exact value
        · simp only [Literal.lastPower, one, List.length_singleton, List.drop_nil, List.map_nil,
            List.length_nil]
          omega
    · next digit rest several shape =>
        have some : rest ≠ [] := by
          rintro rfl
          exact several rfl
        rw [shape] at digits value
        rw [AreDigits, List.forall_mem_cons] at digits
        refine ⟨[digit], '.' :: rest,
          'e' :: exponentText ((digitText number.digits).length + number.exponent - 1), _,
          by simp [shape], ⟨by simp, by simpa [AreDigits] using digits.1, by simp⟩,
          .inr ⟨rest, some, digits.2, rfl⟩, isPower_exponentText _, .inl (List.cons_ne_nil _ _),
          takeExponent_exponentText _, fun negative => ⟨⟨0, ?_, ?_, .inl rfl⟩, .inl value⟩⟩
        · rw [Nat.pow_eq, Nat.pow_zero, Nat.mul_one]
          exact value
        · simp only [Literal.lastPower, shape, List.length_cons, List.drop_one, List.tail_cons,
            List.length_map]
          omega

/-! ### The shortest decimal -/

theorem gridPoint?_ne_zero {tie : Tie} {number : Binary} {power : Int} {point : Nat}
    (found : number.gridPoint? tie power = some point) : point ≠ 0 := by
  unfold Binary.gridPoint? at found
  grind

/-- Only the zero that stands for no decimal at all has no digits. -/
theorem exponent_search {tie : Tie} {number : Binary} (tries : Nat) (power : Int)
    (zero : (number.search tie tries power).digits = 0) :
    (number.search tie tries power).exponent ≤ 0 := by
  induction tries generalizing power with
  | zero => exact Int.le_refl 0
  | succ tries ih =>
      unfold Binary.search at zero ⊢
      cases found : number.gridPoint? tie power with
      | none =>
          rw [found] at zero
          exact ih _ zero
      | some point =>
          rw [found] at zero
          exact absurd zero (gridPoint?_ne_zero found)

theorem exponent_shortest (tie : Tie) (number : Binary)
    (zero : (number.shortest tie).digits = 0) :
    (number.shortest tie).exponent ≤ 0 :=
  exponent_search _ _ zero

/-- The number that is written out in a layout for the parts of a finite number. -/
inductive Parts.ShownBy (layout : Layout) : Parts → Literal → Prop
  | zero {negative : Bool} {literal : Literal} (same : literal.negative = negative)
      (digits : literal.digits = 0) : ShownBy layout (.zero negative) literal
  | finite {negative : Bool} {magnitude : Binary} {literal : Literal}
      (same : literal.negative = negative) (shows : literal.Shows (magnitude.shortest .even))
      (few : literal.IsFew layout (magnitude.shortest .even)) :
      ShownBy layout (.finite negative magnitude) literal

/-- The text of a finite number has a sign perhaps, and the parts of a number. -/
theorem laidOut?_parts {layout : Layout} {parts : Parts} {text : List Char}
    (written : parts.laidOut? layout = some text) :
    ∃ negative whole fraction power exponent,
      text = sign negative ++ (whole ++ fraction ++ power) ∧
      IsWhole whole ∧ IsFraction fraction ∧ IsPower power ∧ (fraction ≠ [] ∨ power ≠ []) ∧
      Literal.takeExponent power = some (exponent, []) ∧
      parts.ShownBy layout
        ⟨negative, whole.map digitOf, (fraction.drop 1).map digitOf, exponent⟩ := by
  cases parts with
  | notANumber => cases written
  | infinite negative => cases written
  | zero negative =>
      cases written
      exact ⟨negative, ['0'], ['.', '0'], [], 0, rfl, ⟨by decide, by simp [AreDigits], by simp⟩,
        .inr ⟨['0'], by decide, by simp [AreDigits], rfl⟩, .inl rfl, .inl (List.cons_ne_nil _ _), rfl,
        .zero rfl rfl⟩
  | finite negative magnitude =>
      cases written
      obtain ⟨whole, fraction, power, exponent, shape, isWhole, isFraction, isPower, marked, taken,
        shows⟩ := write_parts layout (exponent_shortest .even magnitude)
      exact ⟨negative, whole, fraction, power, exponent, by rw [shape], isWhole, isFraction, isPower,
        marked, taken, .finite rfl (shows negative).1 (shows negative).2⟩

end LightingDesk.Decimal
