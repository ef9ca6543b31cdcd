import LightingDesk.Proofs.Ron.Appearance
import LightingDesk.Proofs.Ron.Scan
/-!
RON texts that were written are read back as the values that were written.
-/

namespace LightingDesk.Ron

open Ron.Token (Spells Ends isNameCharacter isWordCharacter)
open Json.Token (isSpace)

/-- What stands behind a value: nothing, a comma or the end of a group. -/
def Follows (rest : List Token) : Prop :=
  ∀ token ∈ rest.head?, token = .symbol ',' ∨ token = .symbol ')'

/-- The characters are read as a value that nests to so many levels, whatever follows it: they
consist of tokens that are parsed as it, and neither a closing parenthesis stands in front nor a
blank at the end. -/
structure Prints (characters : List Char) (value : Ron) (levels : Nat) (tokens : List Token) :
    Prop where
  spells : ∀ {rest : List Char} {following : List Token}, Ends rest → Spells rest following →
    Spells (characters ++ rest) (tokens ++ following)
  parses : ∀ {steps depth : Nat} {rest : List Token}, 4 * tokens.length ≤ steps → levels ≤ depth →
    Follows rest → parseValue steps depth (tokens ++ rest) = some (value, rest)
  first : ∃ c tail, characters = c :: tail ∧ c ≠ ')'
  last : ∃ front c, characters = front ++ [c] ∧ isSpace c = false

namespace Prints

variable {characters : List Char} {value : Ron} {levels : Nat} {tokens : List Token}

/-- Symbols other than opening ones begin no value. -/
theorem head?_ne (prints : Prints characters value levels tokens) {rest : List Token}
    (follows : Follows rest) {c : Char} (closing : c ≠ '(' ∧ c ≠ '[' ∧ c ≠ '\x7b') :
    (tokens ++ rest).head? ≠ some (.symbol c) := fun first => by
  have parsed := prints.parses (Nat.le_add_right _ 1) (Nat.le_refl _) follows
  obtain ⟨more, same⟩ := List.head?_eq_some_iff.1 first
  rw [same, parseValue] at parsed
  · cases parsed
  · exact closing.1
  · exact closing.2.1
  · exact closing.2.2

end Prints

def Reads (characters : List Char) (value : Ron) (levels : Nat) : Prop :=
  ∃ tokens, Prints characters value levels tokens

theorem parseHead_of_ne {tokens : List Token} (noHash : tokens.head? ≠ some (.symbol '#'))
    (steps : Nat) (extensions : Extensions) :
    parseHead (steps + 1) extensions tokens = some (extensions, tokens) := by
  unfold parseHead
  split
  · exact absurd rfl noHash
  · exact absurd rfl noHash
  · rfl

theorem parse?_of_reads {characters : List Char} {value : Ron} {levels : Nat}
    (reads : Reads characters value levels) (shallow : levels ≤ depthLimit) :
    parse? (String.ofList characters) = some (.none, value) := by
  obtain ⟨tokens, prints⟩ := reads
  obtain ⟨front, c, shape, shows⟩ := prints.last
  have ends : Follows [] := fun _ none => by cases none
  have kept : (String.ofList characters).endsWith isSpace = false := by
    simp [String.endsWith_bool_eq_getLast?, shape, shows]
  have spelled := prints.spells (show Ends [] from rfl) .nil
  have parsed := prints.parses (Nat.le_add_right _ 1) shallow ends
  have noHash := prints.head?_ne ends (c := '#') (by decide)
  simp only [List.append_nil] at spelled parsed noHash
  rw [parse?, String.dropEndWhile_eq_toSlice kept]
  simp [Token.scan?_of_spells spelled, ofTokens?, parseHead_of_ne noHash, parsed]

/-! ### Single tokens -/

theorem isSpace_of_isNameCharacter {c : Char} (isName : isNameCharacter c = true) :
    isSpace c = false := by
  simp only [isSpace, Bool.or_eq_false_iff, decide_eq_false_iff_not]
  refine ⟨⟨⟨?_, ?_⟩, ?_⟩, ?_⟩ <;> rintro rfl <;> cases isName

/-- A character of a name opens no comment and closes no group. -/
theorem ne_of_isNameCharacter {c : Char} (isName : isNameCharacter c = true) :
    c ≠ '/' ∧ c ≠ ')' := by
  constructor <;> rintro rfl <;> cases isName

/-- Characters that are one token, and a token that is parsed as one value. -/
theorem Prints.ofToken {c : Char} {tail : List Char} {value : Ron} {token : Token}
    (shows : isSpace c = false) (noComment : c ≠ '/' ∧ c ≠ ')')
    (last : ∃ front d, c :: tail = front ++ [d] ∧ isSpace d = false)
    (scanned : ∀ {rest : List Char} {steps : Nat}, Ends rest → (tail ++ rest).length < steps →
      Token.next? steps (c :: tail ++ rest) = some (token, rest))
    (parsed : ∀ {steps depth : Nat} {rest : List Token}, Follows rest →
      parseValue (steps + 2) depth (token :: rest) = some (value, rest)) :
    Prints (c :: tail) value 0 [token] where
  spells ends spells :=
    .token shows noComment.1 (fun enough => scanned ends enough) (by simp) spells
  parses {steps depth rest} enough _ follows := by
    obtain ⟨more, rfl⟩ : ∃ more, steps = more + 2 :=
      ⟨steps - 2, by simp only [List.length_singleton] at enough; omega⟩
    exact parsed follows
  first := ⟨c, tail, rfl, noComment.2⟩
  last := last

theorem last_of_all {characters : List Char} (nonempty : characters ≠ [])
    (all : ∀ c ∈ characters, isNameCharacter c = true) :
    ∃ front c, characters = front ++ [c] ∧ isSpace c = false :=
  ⟨characters.dropLast, characters.getLast nonempty,
    (List.dropLast_concat_getLast nonempty).symm,
    isSpace_of_isNameCharacter (all _ (List.getLast_mem nonempty))⟩

theorem reads_text (value : String) : Reads (Text.quote true value) (.text value) 0 :=
  ⟨_, .ofToken rfl (by decide) ⟨'"' :: value.toList.flatMap (Text.escape true), '"', rfl, rfl⟩
    (fun {rest _} _ enough => Token.next?_quote value rest (by simpa using enough))
    fun _ => by rw [parseValue]⟩

/-- A number has no characters but those that stand in names, and begins with a digit, a sign or a
point. -/
theorem reads_number {c : Char} {tail : List Char} (starts : Token.isNumberStart c = true)
    (all : ∀ d ∈ c :: tail, isNameCharacter d = true) :
    Reads (c :: tail) (.number (c :: tail)) 0 := by
  have first := all c List.mem_cons_self
  exact ⟨_, .ofToken (isSpace_of_isNameCharacter first) (ne_of_isNameCharacter first)
    (last_of_all (List.cons_ne_nil c tail) all)
    (fun {_ steps} ends _ => Token.next?_number starts all ends steps) fun _ => by
      rw [parseValue]⟩

/-- A word that has a meaning of its own. -/
theorem reads_word {c : Char} {tail : List Char} (starts : Token.isWordStart c = true)
    (all : ∀ d ∈ c :: tail, isWordCharacter d = true) {value : Ron}
    (means : ofWord (String.ofList (c :: tail)) = value)
    (noMark : String.ofList (c :: tail) ≠ mark) (noName : ∀ name, value ≠ .bare name) :
    Reads (c :: tail) value 0 := by
  have named := fun d member => Token.isNameCharacter_of_isWordCharacter (all d member)
  have first := named c List.mem_cons_self
  refine ⟨_, .ofToken (isSpace_of_isNameCharacter first) (ne_of_isNameCharacter first)
    (last_of_all (List.cons_ne_nil c tail) named)
    (fun {_ steps} ends _ => Token.next?_word starts all ends steps) fun {steps depth rest} _ => ?_⟩
  unfold parseValue
  simp only [if_neg noMark, means]

theorem reads_boolean (value : Bool) : Reads (toString value).toList (.boolean value) 0 := by
  cases value with
  | true =>
      have text : (toString true).toList = ['t', 'r', 'u', 'e'] := by decide
      rw [text]
      exact reads_word rfl (List.all_eq_true.1 rfl) rfl (by decide) (by simp)
  | false =>
      have text : (toString false).toList = ['f', 'a', 'l', 's', 'e'] := by decide
      rw [text]
      exact reads_word rfl (List.all_eq_true.1 rfl) rfl (by decide) (by simp)

/-- The digits of a number with its sign and a fraction are read as a number. -/
theorem reads_parts (negative : Bool) {whole fraction : List Char}
    (isWhole : Decimal.IsWhole whole) (isFraction : Decimal.IsFraction fraction) :
    Reads (Decimal.sign negative ++ (whole ++ fraction))
      (.number (Decimal.sign negative ++ (whole ++ fraction))) 0 := by
  have digit {c : Char} (digit : c.isDigit = true) : isNameCharacter c = true := by
    simp [isNameCharacter, isWordCharacter, digit]
  have behind : ∀ c ∈ whole ++ fraction, isNameCharacter c = true := by
    intro c member
    rcases List.mem_append.1 member with front | back
    · exact digit (isWhole.digits c front)
    · rcases isFraction with rfl | ⟨digits, -, all, rfl⟩
      · cases back
      · rcases List.mem_cons.1 back with rfl | back
        · rfl
        · exact digit (all c back)
  cases negative with
  | true => exact reads_number rfl (List.forall_mem_cons.2 ⟨rfl, behind⟩)
  | false =>
      obtain ⟨c, tail, rfl⟩ := List.exists_cons_of_ne_nil isWhole.nonempty
      have starts : Token.isNumberStart c = true := by
        simp [Token.isNumberStart, isWhole.digits c List.mem_cons_self]
      exact reads_number starts behind

theorem reads_integer (value : Int) :
    Reads (toString value).toList (.number (toString value).toList) 0 := by
  have read := reads_parts (value < 0) (Decimal.isWhole_digitText value.natAbs) (.inl rfl)
  rwa [List.append_nil, ← Decimal.toList_toString] at read

/-- The text of a floating-point number is read as a number with the same characters. -/
theorem reads_plain (parts : Decimal.Parts) :
    Reads (parts.plain true) (.number (parts.plain true)) 0 := by
  cases parts with
  | notANumber => exact reads_word (c := 'N') rfl (List.all_eq_true.1 rfl) rfl (by decide) (by simp)
  | infinite negative =>
      cases negative with
      | true => exact reads_number (c := '-') rfl (List.all_eq_true.1 rfl)
      | false => exact reads_word (c := 'i') rfl (List.all_eq_true.1 rfl) rfl (by decide) (by simp)
  | zero negative =>
      have zero : Decimal.IsWhole ['0'] := ⟨by decide, by simp [Decimal.AreDigits], by simp⟩
      exact reads_parts negative zero (.inr ⟨['0'], by decide, by simp [Decimal.AreDigits], rfl⟩)
  | finite negative magnitude =>
      obtain ⟨whole, digits, shape, isWhole, ⟨some, all⟩, -, -⟩ := Decimal.positional_parts
        (Decimal.exponent_shortest .upper magnitude)
      rw [Decimal.Parts.plain, shape]
      exact reads_parts negative isWhole (.inr ⟨digits, some, all, rfl⟩)

theorem reads_absent : Reads "None".toList .absent 0 := by
  have text : "None".toList = ['N', 'o', 'n', 'e'] := by decide
  rw [text]
  exact reads_word rfl (List.all_eq_true.1 rfl) rfl (by decide) (by simp)

/-! ### Names -/

/-- The token of a name. -/
def nameToken (name : String) : Token :=
  if name.toList.contains '-' then .rawName name else .word name

/-- A name is one token, whatever ends it. -/
theorem scan_name {name : String} (isName : Written.isName name = true) :
    ∃ c tail, nameText name = c :: tail ∧ isNameCharacter c = true ∧
      (∃ front d, c :: tail = front ++ [d] ∧ isSpace d = false) ∧
      ∀ {rest : List Char} {steps : Nat}, Ends rest →
        Token.next? steps (c :: tail ++ rest) = some (nameToken name, rest) := by
  simp only [Written.isName, Bool.and_eq_true, List.all_eq_true, Bool.or_eq_true,
    decide_eq_true_eq] at isName
  obtain ⟨⟨all, starts⟩, -⟩ := isName
  have named : ∀ c ∈ name.toList, isNameCharacter c = true := fun c member =>
    (all c member).elim Token.isNameCharacter_of_isWordCharacter fun same => same ▸ rfl
  cases shape : name.toList with
  | nil =>
      rw [shape] at starts
      cases starts
  | cons c tail =>
      rw [shape] at all starts named
      have text : String.ofList (c :: tail) = name := by rw [← shape, String.ofList_toList]
      obtain ⟨front, d, ending, shows⟩ := last_of_all (List.cons_ne_nil c tail) named
      unfold nameText nameToken
      rw [shape]
      dsimp only
      split
      · next raw =>
          refine ⟨'r', _, rfl, rfl, ⟨'r' :: '#' :: front, d, by rw [ending]; rfl, shows⟩,
            fun {rest steps} ends => ?_⟩
          rw [← text]
          exact Token.next?_rawName (List.cons_ne_nil c tail) named ends steps
      · next plain =>
          have words : ∀ e ∈ c :: tail, isWordCharacter e = true := fun e member =>
            (all e member).resolve_right fun same => by
              subst same
              exact plain (List.contains_iff_mem.2 member)
          refine ⟨c, tail, rfl, named c List.mem_cons_self, ⟨front, d, ending, shows⟩,
            fun {rest steps} ends => ?_⟩
          rw [← text]
          exact Token.next?_word starts words ends steps

theorem parseValue_name {name : String} (isName : Written.isName name = true) (steps depth : Nat)
    (rest : List Token) :
    parseValue (steps + 1) depth (nameToken name :: rest) =
      parseNamed steps depth (Written.ronName name) rest := by
  simp only [Written.isName, Bool.and_eq_true, Bool.not_eq_true', List.contains_cons,
    Bool.or_eq_false_iff, beq_eq_false_iff_ne] at isName
  obtain ⟨-, noTrue, noFalse, noInf, noNaN, noNone, noSome, -⟩ := isName
  unfold nameToken Written.ronName
  split
  · next raw =>
      rw [raw, parseValue]
  · next plain =>
      rw [Bool.not_eq_true] at plain
      have noMark : name ≠ mark := noSome
      have means : ofWord name = .bare ⟨name, false⟩ := by
        unfold ofWord
        split
        any_goals contradiction
        rfl
      rw [plain]
      unfold parseValue
      simp only [if_neg noMark, means]

/-! ### Parentheses -/

theorem newLine_blanks (level : Nat) : ∀ c ∈ newLine level, isSpace c = true := by
  intro c member
  simp only [newLine, List.mem_cons, List.mem_replicate] at member
  rcases member with rfl | ⟨-, rfl⟩ <;> rfl

/-- A symbol that is one token wherever it stands. -/
theorem Spells.symbol {c : Char} (plain : c ∈ [')', '[', ']', ',', ':']) {rest : List Char}
    {following : List Token} (spells : Spells rest following) :
    Spells (c :: rest) (.symbol c :: following) := by
  simp only [List.mem_cons, List.not_mem_nil, or_false] at plain
  rcases plain with rfl | rfl | rfl | rfl | rfl <;>
    exact .token rfl (by decide) (fun _ => rfl) (Nat.le_refl _) spells

/-- An opening parenthesis in front of something else than a closing one. -/
theorem Spells.opening {chars : List Char} {c : Char} {tail : List Char} (first : chars = c :: tail)
    (noUnit : c ≠ ')') {following : List Token} (spells : Spells chars following) :
    Spells ('(' :: chars) (.symbol '(' :: following) := by
  subst first
  refine .token rfl (by decide) (fun _ => ?_) (Nat.le_refl _) spells
  simp [Token.next?, noUnit]

/-- A value in parentheses. -/
theorem Prints.spells_parenthesized {characters : List Char} {value : Ron} {levels : Nat}
    {tokens : List Token} (prints : Prints characters value levels tokens) {rest : List Char}
    {following : List Token} (spells : Spells rest following) :
    Spells (parenthesized characters ++ rest)
      (.symbol '(' :: (tokens ++ .symbol ')' :: following)) := by
  obtain ⟨c, tail, first, noUnit⟩ := prints.first
  have inner := prints.spells (show Ends (')' :: _) from rfl) (Spells.symbol (by decide) spells)
  simp only [parenthesized, List.cons_append, List.append_assoc, List.nil_append]
  exact Spells.opening (by rw [first]; rfl) noUnit inner

theorem last_parenthesized (front characters : List Char) :
    ∃ before c, front ++ parenthesized characters = before ++ [c] ∧ isSpace c = false :=
  ⟨front ++ '(' :: characters, ')', by simp [parenthesized], rfl⟩

theorem follows_close (rest : List Token) : Follows (.symbol ')' :: rest) := by
  rintro token ⟨⟩
  exact .inr rfl

theorem follows_comma (rest : List Token) : Follows (.symbol ',' :: rest) := by
  rintro token ⟨⟩
  exact .inl rfl

/-- A present value is marked and stands in parentheses. -/
theorem Prints.present {characters : List Char} {value : Ron} {levels : Nat}
    {tokens : List Token} (prints : Prints characters value levels tokens) :
    Prints ("Some".toList ++ parenthesized characters) (.present value) (levels + 1)
      (.word "Some" :: .symbol '(' :: (tokens ++ [.symbol ')'])) where
  spells {rest following} _ spells := by
    have text : "Some".toList = ['S', 'o', 'm', 'e'] := by decide
    have inner := prints.spells_parenthesized spells
    have ends : Ends (parenthesized characters ++ rest) := rfl
    have word {steps : Nat} : Token.next? steps (['S', 'o', 'm', 'e'] ++ _) = _ :=
      Token.next?_word rfl (List.all_eq_true.1 rfl) ends steps
    rw [text, List.append_assoc]
    have marked := Spells.token rfl (by decide) (fun _ => word) (by simp; omega) inner
    simpa using marked
  parses {steps depth rest} enough room follows := by
    simp only [List.length_cons, List.length_append] at enough
    obtain _ | steps := steps
    · omega
    · obtain _ | depth := depth
      · omega
      · have inner := prints.parses (show _ ≤ steps by omega) (show _ ≤ depth by omega)
          (follows_close rest)
        simp only [List.cons_append, List.append_assoc, List.nil_append]
        unfold parseValue
        simp only [mark, if_true, inner]
  first := ⟨'S', _, rfl, by decide⟩
  last := last_parenthesized _ _

/-! ### Groups -/

theorem parseValue_colon (steps depth : Nat) (more : List Token) :
    parseValue steps depth (.symbol ':' :: more) = none := by
  cases steps with
  | zero => rw [parseValue]
  | succ steps => rw [parseValue] <;> decide

theorem parseNamed_colon {steps depth : Nat} {name : Name} {more rest : List Token} {value : Ron}
    (parsed : parseNamed steps depth name (.symbol ':' :: more) = some (value, rest)) :
    rest = .symbol ':' :: more := by
  cases steps with
  | zero =>
      rw [parseNamed] at parsed
      cases parsed
  | succ steps =>
      rw [parseNamed] at parsed
      · cases parsed
        rfl
      all_goals simp

/-- In front of a colon a word is no more than itself. -/
theorem parseValue_word_colon {steps depth : Nat} {name : String} {more rest : List Token}
    {value : Ron}
    (parsed : parseValue steps depth (.word name :: .symbol ':' :: more) = some (value, rest)) :
    rest = .symbol ':' :: more := by
  cases steps with
  | zero =>
      rw [parseValue] at parsed
      cases parsed
  | succ steps =>
      unfold parseValue at parsed
      by_cases marked : name = mark
      · simp only [if_pos marked] at parsed
        have nothing : parseMarked steps depth false (.symbol ':' :: more) = none := by
          cases steps <;> cases depth <;> simp [parseMarked, parseValue_colon]
        split at parsed
        · cases parsed
        · next same => exact absurd (List.cons.inj same).1 (by decide)
        · rw [nothing] at parsed
          cases parsed
      · simp only [if_neg marked] at parsed
        split at parsed
        · exact parseNamed_colon parsed
        · cases parsed
          rfl

theorem parseValue_rawName_colon {steps depth : Nat} {name : String} {more rest : List Token}
    {value : Ron}
    (parsed : parseValue steps depth (.rawName name :: .symbol ':' :: more) = some (value, rest)) :
    rest = .symbol ':' :: more := by
  cases steps with
  | zero =>
      rw [parseValue] at parsed
      cases parsed
  | succ steps =>
      rw [parseValue] at parsed
      exact parseNamed_colon parsed

/-- Parentheses with a value in front hold items, and no fields. -/
theorem Prints.parseGroup {characters : List Char} {value : Ron} {levels : Nat}
    {tokens : List Token} (prints : Prints characters value levels tokens) {rest : List Token}
    (follows : Follows rest) (steps depth : Nat) (name : Option Name) :
    parseGroup (steps + 1) depth name (tokens ++ rest) =
      (parseItems steps depth ')' [] (tokens ++ rest)).map fun (items, rest) =>
        (.group name items, rest) := by
  have parsed := prints.parses (Nat.le_refl _) (Nat.le_refl _) follows
  have noColon : ∀ more, rest ≠ .symbol ':' :: more := by
    rintro more rfl
    rcases follows _ rfl with same | same <;> cases same
  unfold Ron.parseGroup
  split
  · next shape =>
      rw [shape] at parsed
      exact absurd (parseValue_word_colon parsed) (noColon _)
  · next shape =>
      rw [shape] at parsed
      exact absurd (parseValue_rawName_colon parsed) (noColon _)
  · rfl

/-- The last item of a group. -/
theorem Prints.parseItems_last {characters : List Char} {value : Ron} {levels : Nat}
    {tokens : List Token} (prints : Prints characters value levels tokens) {steps depth : Nat}
    (enough : 4 * tokens.length ≤ steps) (room : levels ≤ depth) (taken : List Ron)
    (rest : List Token) :
    parseItems (steps + 1) (depth + 1) ')' taken (tokens ++ .symbol ')' :: rest) =
      some (taken.reverse ++ [value], rest) := by
  have parsed := prints.parses enough room (follows_close rest)
  have noEnd := prints.head?_ne (follows_close rest) (c := ')') (by decide)
  rw [parseItems, if_neg noEnd]
  simp [parsed]

/-- An item with others behind it. -/
theorem Prints.parseItems_more {characters : List Char} {value : Ron} {levels : Nat}
    {tokens : List Token} (prints : Prints characters value levels tokens) {steps depth : Nat}
    (enough : 4 * tokens.length ≤ steps) (room : levels ≤ depth) {close : Char}
    (closing : close = ')' ∨ close = ']') (taken : List Ron) (rest : List Token) :
    parseItems (steps + 1) (depth + 1) close taken (tokens ++ .symbol ',' :: rest) =
      parseItems steps (depth + 1) close (value :: taken) rest := by
  have parsed := prints.parses enough room (follows_comma rest)
  have noEnd := prints.head?_ne (follows_comma rest) (c := close)
    (by rcases closing with rfl | rfl <;> decide)
  rw [parseItems, if_neg noEnd]
  simp [parsed]

/-- A group with one value in it. -/
theorem Prints.parseGroup_one {characters : List Char} {value : Ron} {levels : Nat}
    {tokens : List Token} (prints : Prints characters value levels tokens) {steps depth : Nat}
    (enough : 4 * tokens.length + 2 ≤ steps) (room : levels + 1 ≤ depth) (name : Option Name)
    (rest : List Token) :
    Ron.parseGroup steps depth name (tokens ++ .symbol ')' :: rest) =
      some (.group name [value], rest) := by
  obtain ⟨more, rfl⟩ : ∃ more, steps = more + 2 := ⟨steps - 2, by omega⟩
  obtain ⟨inner, rfl⟩ : ∃ inner, depth = inner + 1 := ⟨depth - 1, by omega⟩
  rw [prints.parseGroup (follows_close rest),
    prints.parseItems_last (by omega) (by omega)]
  rfl

/-- A single value in parentheses. -/
theorem Prints.wrapped {characters : List Char} {value : Ron} {levels : Nat}
    {tokens : List Token} (prints : Prints characters value levels tokens) :
    Prints (parenthesized characters) (.group none [value]) (levels + 1)
      (.symbol '(' :: (tokens ++ [.symbol ')'])) where
  spells _ spells := by simpa using prints.spells_parenthesized spells
  parses {steps depth rest} enough room follows := by
    simp only [List.length_cons, List.length_append, List.length_nil] at enough
    obtain _ | steps := steps
    · omega
    · simp only [List.cons_append, List.append_assoc, List.nil_append]
      rw [parseValue]
      exact prints.parseGroup_one (by omega) room none rest
  first := ⟨'(', _, rfl, by decide⟩
  last := last_parenthesized [] characters

/-- Two values in parentheses. -/
theorem Prints.pair {one other : List Char} {first second : Ron} {levels : Nat}
    {tokens more : List Token} (prints : Prints one first levels tokens)
    (follower : Prints other second levels more) :
    Prints (parenthesized (one ++ ',' :: ' ' :: other)) (.group none [first, second]) (levels + 1)
      (.symbol '(' :: (tokens ++ .symbol ',' :: (more ++ [.symbol ')']))) where
  spells {rest following} _ spells := by
    have behind := follower.spells (show Ends (')' :: _) from rfl)
      (Spells.symbol (by decide) spells)
    have comma := Spells.symbol (c := ',') (by decide) (Spells.blank (c := ' ') rfl behind)
    have inner := prints.spells (show Ends (',' :: ' ' :: _) from rfl) comma
    obtain ⟨c, tail, first, noUnit⟩ := prints.first
    have opened := Spells.opening (by rw [first]; rfl) noUnit inner
    simpa [parenthesized] using opened
  parses {steps depth rest} enough room follows := by
    simp only [List.length_cons, List.length_append, List.length_nil] at enough
    obtain ⟨left, rfl⟩ : ∃ left, steps = left + 4 := ⟨steps - 4, by omega⟩
    obtain ⟨inner, rfl⟩ : ∃ inner, depth = inner + 1 := ⟨depth - 1, by omega⟩
    simp only [List.cons_append, List.append_assoc, List.nil_append]
    rw [parseValue, prints.parseGroup (follows_comma _),
      prints.parseItems_more (by omega) (by omega) (.inl rfl),
      follower.parseItems_last (by omega) (by omega)]
    rfl
  first := ⟨'(', _, rfl, by decide⟩
  last := last_parenthesized [] _

/-- A name alone. -/
theorem reads_name {name : String} (isName : Written.isName name = true) :
    Reads (nameText name) (.bare (Written.ronName name)) 0 := by
  obtain ⟨c, tail, shape, named, last, scanned⟩ := scan_name isName
  rw [shape]
  refine ⟨_, .ofToken (isSpace_of_isNameCharacter named) (ne_of_isNameCharacter named) last
    (fun ends _ => scanned ends) fun {steps depth rest} follows => ?_⟩
  rw [parseValue_name isName]
  rw [parseNamed]
  · rintro more rfl
    rcases follows _ rfl with same | same <;> cases same
  · rintro more rfl
    rcases follows _ rfl with same | same <;> cases same

/-- What stands in the parentheses behind a name, as a group of that name is parsed. -/
theorem Prints.named {name : String} (isName : Written.isName name = true)
    {characters : List Char} {value : Ron} {levels : Nat} {tokens : List Token}
    (spells : ∀ {rest : List Char} {following : List Token}, Spells rest following →
      Spells (parenthesized characters ++ rest)
        (.symbol '(' :: (tokens ++ .symbol ')' :: following)))
    (parses : ∀ {steps depth : Nat} {rest : List Token}, 4 * tokens.length + 2 ≤ steps →
      levels ≤ depth → Ron.parseGroup steps depth (some (Written.ronName name))
        (tokens ++ .symbol ')' :: rest) = some (value, rest)) :
    Prints (nameText name ++ parenthesized characters) value levels
      (nameToken name :: .symbol '(' :: (tokens ++ [.symbol ')'])) where
  spells {rest following} _ behind := by
    obtain ⟨c, tail, shape, named, -, scanned⟩ := scan_name isName
    have inner := spells behind
    have noComment := (ne_of_isNameCharacter named).1
    have ends : Ends (parenthesized characters ++ rest) := rfl
    rw [shape, List.append_assoc]
    have marked := Spells.token (isSpace_of_isNameCharacter named) noComment (fun _ => scanned ends)
      (by simp) inner
    simpa using marked
  parses {steps depth rest} enough room follows := by
    simp only [List.length_cons, List.length_append, List.length_nil] at enough
    obtain ⟨left, rfl⟩ : ∃ left, steps = left + 2 := ⟨steps - 2, by omega⟩
    simp only [List.cons_append, List.append_assoc, List.nil_append]
    rw [parseValue_name isName, parseNamed]
    exact parses (by omega) room
  first := by
    obtain ⟨c, tail, shape, named, -, -⟩ := scan_name isName
    exact ⟨c, tail ++ parenthesized characters, by rw [shape]; rfl, (ne_of_isNameCharacter named).2⟩
  last := last_parenthesized _ _

/-! ### Lists -/

/-- The items of a list, each with a comma behind it. -/
structure PrintsItems (characters : List Char) (items : List Ron) (levels : Nat)
    (tokens : List Token) : Prop where
  spells : ∀ {rest : List Char} {following : List Token}, Spells rest following →
    Spells (characters ++ rest) (tokens ++ following)
  parses : ∀ {steps depth : Nat} (taken : List Ron) (rest : List Token),
    4 * tokens.length + 1 ≤ steps → levels ≤ depth →
      parseItems steps (depth + 1) ']' taken (tokens ++ .symbol ']' :: rest) =
        some (taken.reverse ++ items, rest)

theorem PrintsItems.nil (levels : Nat) : PrintsItems [] [] levels [] where
  spells spells := spells
  parses {steps depth} taken rest enough _ := by
    obtain _ | steps := steps
    · omega
    · simp [parseItems]

theorem PrintsItems.cons (level : Nat) {item more : List Char} {value : Ron} {values : List Ron}
    {levels : Nat} {itemTokens tokens : List Token} (prints : Prints item value levels itemTokens)
    (others : PrintsItems more values levels tokens) :
    PrintsItems (newLine level ++ item ++ ',' :: more) (value :: values) levels
      (itemTokens ++ .symbol ',' :: tokens) where
  spells {rest following} spells := by
    have behind := Spells.symbol (c := ',') (by decide) (others.spells spells)
    have here := prints.spells (show Ends (',' :: _) from rfl) behind
    simpa using Spells.blanks (newLine_blanks level) here
  parses {steps depth} taken rest enough room := by
    simp only [List.length_append, List.length_cons] at enough
    obtain _ | steps := steps
    · omega
    · rw [List.append_assoc, List.cons_append, prints.parseItems_more (by omega) room (.inr rfl),
        others.parses (value :: taken) rest (by omega) room]
      simp

/-- A list with something in it. -/
theorem PrintsItems.list {characters : List Char} {items : List Ron} {levels : Nat}
    {tokens : List Token} (prints : PrintsItems characters items levels tokens) (level : Nat) :
    Prints ('[' :: characters ++ newLine level ++ [']']) (.list items) (levels + 1)
      (.symbol '[' :: (tokens ++ [.symbol ']'])) where
  spells {rest following} _ spells := by
    have closed := Spells.blanks (newLine_blanks level)
      (Spells.symbol (c := ']') (by decide) spells)
    simpa using Spells.symbol (c := '[') (by decide) (prints.spells closed)
  parses {steps depth rest} enough room _ := by
    simp only [List.length_cons, List.length_append, List.length_nil] at enough
    obtain ⟨left, rfl⟩ : ∃ left, steps = left + 1 := ⟨steps - 1, by omega⟩
    obtain ⟨inner, rfl⟩ : ∃ inner, depth = inner + 1 := ⟨depth - 1, by omega⟩
    simp only [List.cons_append, List.append_assoc, List.nil_append]
    rw [parseValue, prints.parses [] rest (by omega) (by omega)]
    rfl
  first := ⟨'[', _, rfl, by decide⟩
  last := ⟨_, ']', rfl, rfl⟩

theorem reads_emptyList : Reads ['[', ']'] (.list []) 0 := by
  refine ⟨[.symbol '[', .symbol ']'], ⟨fun _ spells => Spells.symbol (by decide)
    (Spells.symbol (by decide) spells), fun {steps depth rest} enough _ _ => ?_,
    ⟨'[', _, rfl, by decide⟩, ⟨['['], ']', rfl, rfl⟩⟩⟩
  obtain ⟨left, rfl⟩ : ∃ left, steps = left + 2 :=
    ⟨steps - 2, by simp only [List.length_cons] at enough; omega⟩
  rw [List.cons_append, List.cons_append, List.nil_append, parseValue]
  unfold parseItems
  rfl

/-! ### Fields -/

/-- The fields of a record, each with a comma behind it, and the blanks in front of its end. -/
structure PrintsFields (characters : List Char) (fields : List (String × Ron)) (levels : Nat)
    (tokens : List Token) : Prop where
  first : ∃ tail, characters = '\n' :: tail
  starts : fields ≠ [] → ∃ name more, tokens = nameToken name :: .symbol ':' :: more
  spells : ∀ {rest : List Char} {following : List Token}, Spells rest following →
    Spells (characters ++ rest) (tokens ++ following)
  parses : ∀ {steps depth : Nat} (taken : List (String × Ron)) (rest : List Token),
    4 * tokens.length + 1 ≤ steps → levels ≤ depth →
      parseFields steps (depth + 1) taken (tokens ++ .symbol ')' :: rest) =
        some (taken.reverse ++ fields, rest)

theorem PrintsFields.nil (level levels : Nat) : PrintsFields (newLine level) [] levels [] where
  first := ⟨_, rfl⟩
  starts none := absurd rfl none
  spells spells := Spells.blanks (newLine_blanks level) spells
  parses {steps depth} taken rest enough _ := by
    obtain _ | steps := steps
    · omega
    · simp [parseFields]

theorem PrintsFields.cons (level : Nat) {name : String} (isName : Written.isName name = true)
    {value more : List Char} {shown : Ron} {fields : List (String × Ron)} {levels : Nat}
    {valueTokens tokens : List Token} (prints : Prints value shown levels valueTokens)
    (others : PrintsFields more fields levels tokens) :
    PrintsFields (newLine level ++ nameText name ++ ':' :: ' ' :: value ++ ',' :: more)
      ((name, shown) :: fields) levels
      (nameToken name :: .symbol ':' :: (valueTokens ++ .symbol ',' :: tokens)) where
  first := ⟨_, rfl⟩
  starts _ := ⟨name, _, rfl⟩
  spells {rest following} spells := by
    obtain ⟨c, tail, shape, named, -, scanned⟩ := scan_name isName
    have behind := Spells.symbol (c := ',') (by decide) (others.spells spells)
    have here := prints.spells (show Ends (',' :: _) from rfl) behind
    have colon := Spells.symbol (c := ':') (by decide) (Spells.blank (c := ' ') rfl here)
    have marked := Spells.token (isSpace_of_isNameCharacter named) (ne_of_isNameCharacter named).1
      (fun _ => scanned (show Ends (':' :: ' ' :: _) from rfl)) (by simp) colon
    rw [shape]
    simpa using Spells.blanks (newLine_blanks level) marked
  parses {steps depth} taken rest enough room := by
    simp only [List.length_append, List.length_cons] at enough
    obtain _ | steps := steps
    · omega
    · have parsed := prints.parses (show _ ≤ steps by omega) room
        (follows_comma (tokens ++ .symbol ')' :: rest))
      have following := others.parses ((name, shown) :: taken) rest
        (show _ ≤ steps by omega) room
      simp only [List.cons_append, List.append_assoc]
      unfold nameToken
      split <;> simp [parseFields, parsed, following]

namespace PrintsFields

variable {characters : List Char} {fields : List (String × Ron)} {levels : Nat}
  {tokens : List Token}

theorem spells_parenthesized (prints : PrintsFields characters fields levels tokens)
    {rest : List Char} {following : List Token} (spells : Spells rest following) :
    Spells (parenthesized characters ++ rest)
      (.symbol '(' :: (tokens ++ .symbol ')' :: following)) := by
  obtain ⟨tail, first⟩ := prints.first
  have inner := prints.spells (Spells.symbol (c := ')') (by decide) spells)
  simp only [parenthesized, List.cons_append, List.append_assoc, List.nil_append]
  exact Spells.opening (by rw [first]; rfl) (by decide) inner

/-- A group that begins with a name and a colon holds fields. -/
theorem parseGroup (prints : PrintsFields characters fields levels tokens) (some : fields ≠ [])
    {steps depth : Nat} (enough : 4 * tokens.length + 2 ≤ steps) (room : levels + 1 ≤ depth)
    (name : Option Name) (rest : List Token) :
    Ron.parseGroup steps depth name (tokens ++ .symbol ')' :: rest) =
      Option.some (.fields name fields, rest) := by
  obtain ⟨left, rfl⟩ : ∃ left, steps = left + 1 := ⟨steps - 1, by omega⟩
  obtain ⟨inner, rfl⟩ : ∃ inner, depth = inner + 1 := ⟨depth - 1, by omega⟩
  have parsed := prints.parses [] rest (show _ ≤ left by omega) (show _ ≤ inner by omega)
  obtain ⟨first, more, shape⟩ := prints.starts some
  rw [shape] at parsed ⊢
  simp only [List.cons_append] at parsed ⊢
  unfold nameToken at parsed ⊢
  cases raw : first.toList.contains '-' with
  | true =>
      simp only [raw, if_true] at parsed ⊢
      rw [Ron.parseGroup, parsed]
      rfl
  | false =>
      simp only [raw, Bool.false_eq_true, if_false] at parsed ⊢
      rw [Ron.parseGroup, parsed]
      rfl

/-- A record stands in parentheses without a name. -/
theorem record (prints : PrintsFields characters fields levels tokens) (some : fields ≠ []) :
    Prints (parenthesized characters) (.fields none fields) (levels + 1)
      (.symbol '(' :: (tokens ++ [.symbol ')'])) where
  spells _ spells := by simpa using prints.spells_parenthesized spells
  parses {steps depth rest} enough room follows := by
    simp only [List.length_cons, List.length_append, List.length_nil] at enough
    obtain _ | steps := steps
    · omega
    · simp only [List.cons_append, List.append_assoc, List.nil_append]
      rw [parseValue]
      exact prints.parseGroup some (by omega) room none rest
  first := ⟨'(', _, rfl, by decide⟩
  last := last_parenthesized [] characters

end PrintsFields

/-! ### Values -/

theorem Reads.mono {characters : List Char} {value : Ron} {levels more : Nat}
    (reads : Reads characters value levels) (le : levels ≤ more) : Reads characters value more := by
  obtain ⟨tokens, prints⟩ := reads
  exact ⟨tokens, { prints with
    parses := fun enough room follows => prints.parses enough (Nat.le_trans le room) follows }⟩

theorem fieldsRon_ne_nil {fields : List (String × Written)}
    (names : Written.areFields (fields.map Prod.fst) = true) : Written.fieldsRon fields ≠ [] := by
  cases fields with
  | nil => cases names
  | cons field rest => exact List.cons_ne_nil _ _

mutual

theorem reads_pretty : ∀ (value : Written) (level levels : Nat), value.Fits levels →
    Reads (pretty level value) value.toRon levels
  | .boolean value, _, levels, _ => by
      simpa only [pretty, Written.toRon] using (reads_boolean value).mono (Nat.zero_le levels)
  | .integer value, _, levels, _ => by
      simpa only [pretty, Written.toRon] using (reads_integer value).mono (Nat.zero_le levels)
  | .single x, _, levels, _ => by
      simpa only [pretty, Written.toRon] using (reads_plain _).mono (Nat.zero_le levels)
  | .double x, _, levels, _ => by
      simpa only [pretty, Written.toRon] using (reads_plain _).mono (Nat.zero_le levels)
  | .text value, _, levels, _ => by
      simpa only [pretty, Written.toRon] using (reads_text value).mono (Nat.zero_le levels)
  | .absent, _, levels, _ => by
      simpa only [pretty, Written.toRon] using reads_absent.mono (Nat.zero_le levels)
  | .present value, level, levels, ⟨_, positive, fits⟩ => by
      obtain ⟨tokens, prints⟩ := reads_pretty value level (levels - 1) fits
      have reads : Reads _ _ (levels - 1 + 1) := ⟨_, prints.present⟩
      rw [Nat.sub_add_cancel positive] at reads
      simpa only [pretty, Written.toRon] using reads
  | .list [], _, levels, _ => by
      simpa only [pretty, Written.toRon, Written.itemsRon] using
        reads_emptyList.mono (Nat.zero_le levels)
  | .list (first :: rest), level, levels, ⟨positive, fits⟩ => by
      obtain ⟨tokens, prints⟩ := prints_items (first :: rest) (level + 1) (levels - 1) fits
      have reads : Reads _ _ (levels - 1 + 1) := ⟨_, prints.list level⟩
      rw [Nat.sub_add_cancel positive] at reads
      simpa only [pretty, Written.toRon] using reads
  | .pair first second, level, levels, ⟨positive, one, other⟩ => by
      obtain ⟨tokens, prints⟩ := reads_pretty first level (levels - 1) one
      obtain ⟨more, follower⟩ := reads_pretty second level (levels - 1) other
      have reads : Reads _ _ (levels - 1 + 1) := ⟨_, prints.pair follower⟩
      rw [Nat.sub_add_cancel positive] at reads
      simpa only [pretty, Written.toRon] using reads
  | .wrapped _ value, level, levels, ⟨positive, fits⟩ => by
      obtain ⟨tokens, prints⟩ := reads_pretty value level (levels - 1) fits
      have reads : Reads _ _ (levels - 1 + 1) := ⟨_, prints.wrapped⟩
      rw [Nat.sub_add_cancel positive] at reads
      simpa only [pretty, Written.toRon] using reads
  | .record _ entries, level, levels, ⟨names, positive, fits⟩ => by
      obtain ⟨tokens, prints⟩ := prints_fields entries level (levels - 1)
        (fun _ => Written.isName_of_areFields names) fits
      have reads : Reads _ _ (levels - 1 + 1) := ⟨_, prints.record (fieldsRon_ne_nil names)⟩
      rw [Nat.sub_add_cancel positive] at reads
      simpa only [pretty, Written.toRon] using reads
  | .bare name, _, levels, isName => by
      simpa only [pretty, Written.toRon] using (reads_name isName).mono (Nat.zero_le levels)
  | .variant name value, level, levels, ⟨isName, positive, fits⟩ => by
      obtain ⟨tokens, prints⟩ := reads_pretty value level (levels - 1) fits
      have named : Prints _ _ (levels - 1 + 1) _ := .named isName prints.spells_parenthesized
        fun enough room => prints.parseGroup_one enough room _ _
      have reads : Reads _ _ (levels - 1 + 1) := ⟨_, named⟩
      rw [Nat.sub_add_cancel positive] at reads
      simpa only [pretty, Written.toRon] using reads
  | .variantRecord name entries, level, levels, ⟨isName, names, positive, fits⟩ => by
      obtain ⟨tokens, prints⟩ := prints_fields entries level (levels - 1)
        (fun _ => Written.isName_of_areFields names) fits
      have named : Prints _ _ (levels - 1 + 1) _ := .named isName prints.spells_parenthesized
        fun enough room => prints.parseGroup (fieldsRon_ne_nil names) enough room _ _
      have reads : Reads _ _ (levels - 1 + 1) := ⟨_, named⟩
      rw [Nat.sub_add_cancel positive] at reads
      simpa only [pretty, Written.toRon] using reads

theorem prints_items : ∀ (items : List Written) (level levels : Nat),
    Written.ItemsFit items levels →
      ∃ tokens, PrintsItems (prettyItems level items) (Written.itemsRon items) levels tokens
  | [], _, levels, _ => ⟨_, .nil levels⟩
  | item :: rest, level, levels, ⟨here, there⟩ => by
      obtain ⟨itemTokens, prints⟩ := reads_pretty item level levels here
      obtain ⟨tokens, others⟩ := prints_items rest level levels there
      exact ⟨_, .cons level prints others⟩

theorem prints_fields : ∀ (fields : List (String × Written)) (level levels : Nat),
    (∀ name ∈ fields.map Prod.fst, Written.isName name = true) →
    Written.FieldsFit fields levels →
      ∃ tokens, PrintsFields (prettyFields level fields) (Written.fieldsRon fields) levels tokens
  | [], level, levels, _, _ => ⟨_, .nil level levels⟩
  | (name, value) :: rest, level, levels, names, ⟨here, there⟩ => by
      obtain ⟨isName, others⟩ := List.forall_mem_cons.1 names
      obtain ⟨valueTokens, prints⟩ := reads_pretty value (level + 1) levels here
      obtain ⟨tokens, more⟩ := prints_fields rest level levels others there
      exact ⟨_, .cons (level + 1) isName prints more⟩

end

end LightingDesk.Ron
