import LightingDesk.Proofs.Json.Appearance
import LightingDesk.Proofs.Json.Scan
/-!
JSON texts that were written are read back: texts, integers, arrays and objects as they were, and
floating-point numbers as their own texts are read.
-/

namespace LightingDesk.Json

open Json.Token (Spells Ends isSpace)

/-- The characters are read as a document, whatever ends them: they consist of tokens that are parsed
as it, and the last of them is no blank. -/
structure Prints (characters : List Char) (document : Json) (tokens : List Token) : Prop where
  spells : ∀ {rest : List Char} {following : List Token}, Ends rest → Spells rest following →
    Spells (characters ++ rest) (tokens ++ following)
  parses : ∀ {steps : Nat} (rest : List Token), 2 * tokens.length ≤ steps →
    parseValue steps (tokens ++ rest) = some (document, rest)
  last : ∃ front c, characters = front ++ [c] ∧ isSpace c = false

def Reads (characters : List Char) (document : Json) : Prop :=
  ∃ tokens, Prints characters document tokens

theorem parse?_of_reads {characters : List Char} {document : Json}
    (reads : Reads characters document) :
    parse? (String.ofList characters) = some document := by
  obtain ⟨tokens, spells, parses, front, c, shape, shows⟩ := reads
  have kept : (String.ofList characters).endsWith isSpace = false := by
    simp [String.endsWith_bool_eq_getLast?, shape, shows]
  have spelled := spells (fun _ none => by cases none) .nil
  have parsed := parses [] (Nat.le_add_right _ 1)
  simp only [List.append_nil] at spelled parsed
  rw [parse?, String.dropEndWhile_eq_toSlice kept]
  simp [Token.scan?_of_spells spelled, ofTokens?, parsed]

/-- Characters end as the last part of them does. -/
theorem exists_last_append (start : List Char) {characters : List Char}
    (last : ∃ front c, characters = front ++ [c] ∧ isSpace c = false) :
    ∃ front c, start ++ characters = front ++ [c] ∧ isSpace c = false := by
  obtain ⟨front, c, shape, shows⟩ := last
  exact ⟨start ++ front, c, by rw [shape, List.append_assoc], shows⟩

/-! ### Single tokens -/

/-- Characters that are one token, and a token that is parsed as one document. -/
theorem Prints.ofToken {characters : List Char} {document : Json} {token : Token} {c : Char}
    {tail : List Char} (first : characters = c :: tail) (shows : isSpace c = false)
    (last : ∃ front c, characters = front ++ [c] ∧ isSpace c = false)
    (scanned : ∀ rest, Ends rest → Token.next? (characters ++ rest) = some (token, rest))
    (parsed : ∀ steps rest, parseValue (steps + 1) (token :: rest) = some (document, rest)) :
    Prints characters document [token] where
  spells {rest following} ends spells := by
    have scanned := scanned rest ends
    subst first
    exact .token shows scanned (by simp) spells
  parses {steps} rest enough := by
    obtain _ | steps := steps
    · cases enough
    · exact parsed steps rest
  last := last

/-- A document without contents: an opening and a closing character. -/
theorem Prints.ofPair {c d : Char} {opening closing : Token} {document : Json}
    (shows : isSpace c = false) (alsoShows : isSpace d = false)
    (first : ∀ rest, Token.next? (c :: rest) = some (opening, rest))
    (second : ∀ rest, Token.next? (d :: rest) = some (closing, rest))
    (parsed : ∀ steps rest, parseValue (steps + 1) (opening :: closing :: rest) =
      some (document, rest)) : Prints [c, d] document [opening, closing] where
  spells _ spells :=
    .token shows (first _) (Nat.le_refl _) (.token alsoShows (second _) (Nat.le_refl _) spells)
  parses {steps} rest enough := by
    obtain _ | steps := steps
    · cases enough
    · exact parsed steps rest
  last := ⟨[c], d, rfl, alsoShows⟩

theorem reads_null : Reads nullText .null :=
  ⟨_, .ofToken rfl rfl ⟨['n', 'u', 'l'], 'l', rfl, rfl⟩ (fun _ _ => rfl) fun _ _ => rfl⟩

theorem reads_boolean (value : Bool) : Reads (booleanText value) (.boolean value) := by
  cases value with
  | true => exact ⟨_, .ofToken rfl rfl ⟨['t', 'r', 'u'], 'e', rfl, rfl⟩ (fun _ _ => rfl)
      fun _ _ => rfl⟩
  | false => exact ⟨_, .ofToken rfl rfl ⟨['f', 'a', 'l', 's'], 'e', rfl, rfl⟩ (fun _ _ => rfl)
      fun _ _ => rfl⟩

theorem reads_text (value : String) : Reads (quote value) (.text value) :=
  ⟨_, .ofToken rfl rfl ⟨_, '"', rfl, rfl⟩ (fun rest _ => Token.next?_quote value rest)
    fun _ _ => rfl⟩

theorem parseValue_number {token : Token} {number : Json} (isNumber : token.number? = some number)
    (steps : Nat) (rest : List Token) :
    parseValue (steps + 1) (token :: rest) = some (number, rest) := by
  cases token <;> cases isNumber <;> rfl

theorem isSpace_of_isDigit {c : Char} (digit : c.isDigit = true) : isSpace c = false := by
  simp only [isSpace, Bool.or_eq_false_iff, decide_eq_false_iff_not]
  refine ⟨⟨⟨?_, ?_⟩, ?_⟩, ?_⟩ <;> rintro rfl <;> cases digit

/-- Digits with what may stand around them in a number end with a digit. -/
theorem last_parts {whole fraction power : List Char} (isWhole : Decimal.IsWhole whole)
    (isFraction : Decimal.IsFraction fraction) (isPower : Decimal.IsPower power) :
    ∃ front c, whole ++ fraction ++ power = front ++ [c] ∧ isSpace c = false := by
  have ending (front : List Char) {digits : List Char} (some : digits ≠ [])
      (all : Decimal.AreDigits digits) :
      ∃ before c, front ++ digits = before ++ [c] ∧ isSpace c = false :=
    ⟨front ++ digits.dropLast, digits.getLast some, by
      rw [List.append_assoc, List.dropLast_concat_getLast],
      isSpace_of_isDigit (all _ (List.getLast_mem some))⟩
  rcases isPower with rfl | ⟨sign, digits, -, some, all, rfl⟩
  · rcases isFraction with rfl | ⟨digits, some, all, rfl⟩
    · simpa using ending [] isWhole.nonempty isWhole.digits
    · simpa using ending (whole ++ ['.']) some all
  · simpa using ending (whole ++ fraction ++ ['e', sign]) some all

/-- The parts of a number are read as the number that they are scanned as. -/
theorem reads_number (negative : Bool) {whole fraction power : List Char}
    (isWhole : Decimal.IsWhole whole) (isFraction : Decimal.IsFraction fraction)
    (isPower : Decimal.IsPower power) {token : Token} {number : Json}
    (isNumber : token.number? = some number)
    (scanned : ∀ rest, Ends rest →
      Token.scanUnsigned negative (whole ++ (fraction ++ (power ++ rest))) = some (token, rest)) :
    Reads (Decimal.sign negative ++ (whole ++ fraction ++ power)) number := by
  obtain ⟨c, tail, shape⟩ := List.exists_cons_of_ne_nil isWhole.nonempty
  have digit := isWhole.digits c (shape ▸ List.mem_cons_self)
  obtain ⟨d, more, first, shows⟩ : ∃ d more,
      Decimal.sign negative ++ (whole ++ fraction ++ power) = d :: more ∧ isSpace d = false := by
    cases negative with
    | true => exact ⟨'-', _, rfl, rfl⟩
    | false => exact ⟨c, tail ++ fraction ++ power, by simp [Decimal.sign, shape],
        isSpace_of_isDigit digit⟩
  have last := exists_last_append (Decimal.sign negative) (last_parts isWhole isFraction isPower)
  refine ⟨_, .ofToken first shows last (fun rest ends => ?_) (parseValue_number isNumber)⟩
  rw [← scanned rest ends, ← Token.next?_sign negative isWhole]
  simp only [List.append_assoc]

/-- The text of a finite number is read as the number that is written out. -/
theorem exists_reads_laidOut {layout : Decimal.Layout} {parts : Decimal.Parts} {text : List Char}
    (laidOut : parts.laidOut? layout = some text) :
    ∃ literal, Reads text (.decimal literal) ∧ parts.ShownBy layout literal := by
  obtain ⟨negative, whole, fraction, power, exponent, rfl, isWhole, isFraction, isPower, marked,
    taken, shown⟩ := Decimal.laidOut?_parts laidOut
  have scanned := Token.scanUnsigned_parts negative isWhole isFraction isPower marked taken
  exact ⟨_, reads_number negative isWhole isFraction isPower rfl scanned, shown⟩

/-- The text of a floating-point number is read as some document. -/
theorem reads_laidOut (layout : Decimal.Layout) (parts : Decimal.Parts) :
    ∃ document, Reads ((parts.laidOut? layout).getD nullText) document := by
  cases laidOut : parts.laidOut? layout with
  | none => exact ⟨.null, reads_null⟩
  | some text =>
      obtain ⟨literal, reads, -⟩ := exists_reads_laidOut laidOut
      exact ⟨.decimal literal, reads⟩

theorem ofDigits_digitText {value : Int} (least : Int64.minValue.toInt ≤ value)
    (most : value < UInt64.size) :
    Token.ofDigits (value < 0) ((Decimal.digitText value.natAbs).map Decimal.digitOf) =
      .integer value := by
  unfold Token.ofDigits
  rw [Decimal.valueOfDigits_digitText]
  by_cases negative : value < 0
  · have size : -(value.natAbs : Int) = value := by omega
    have inside : ¬(value.natAbs = 0 ∨ value < Int64.minValue.toInt) := by omega
    simp only [negative, decide_true, if_true, size, if_neg inside]
  · have size : (value.natAbs : Int) = value := by omega
    have inside : ¬UInt64.size ≤ value.natAbs := by omega
    simp only [negative, decide_false, Bool.false_eq_true, if_false, if_neg inside, size]

theorem reads_integer {value : Int} (least : Int64.minValue.toInt ≤ value)
    (most : value < UInt64.size) : Reads (integerText value) (.integer value) := by
  have isWhole := Decimal.isWhole_digitText value.natAbs
  rw [integerText, Decimal.toList_toString, ← List.append_nil (Decimal.digitText _),
    ← List.append_nil (Decimal.digitText _ ++ [])]
  have isNumber : (Token.integer value).number? = some (.integer value) := rfl
  refine reads_number (value < 0) isWhole (.inl rfl) (.inl rfl) isNumber fun rest ends => ?_
  rw [← ofDigits_digitText least most]
  exact Token.scanUnsigned_digits _ isWhole ends

/-! ### Items and members -/

theorem newLine_blanks (level : Nat) : ∀ c ∈ newLine level, isSpace c = true := by
  intro c member
  simp only [newLine, List.mem_cons, List.mem_replicate] at member
  rcases member with rfl | ⟨-, rfl⟩ <;> rfl

/-- The items behind the first one of an array, up to its end. -/
structure PrintsItems (characters : List Char) (items : List Json) (tokens : List Token) :
    Prop where
  ends : ∀ rest, Ends (characters ++ rest)
  last : ∃ front c, characters = front ++ [c] ∧ isSpace c = false
  spells : ∀ {rest : List Char} {following : List Token}, Spells rest following →
    Spells (characters ++ rest) (tokens ++ following)
  parses : ∀ {first : Json} {firstTokens : List Token},
    (∀ {steps : Nat} (rest : List Token), 2 * firstTokens.length ≤ steps →
      parseValue steps (firstTokens ++ rest) = some (first, rest)) →
    ∀ {steps : Nat} (taken : List Json) (rest : List Token),
      2 * (firstTokens.length + tokens.length) ≤ steps →
        parseItems steps taken (firstTokens ++ (tokens ++ rest)) =
          some (.array (taken.reverse ++ first :: items), rest)

theorem PrintsItems.nil (level : Nat) : PrintsItems (newLine level ++ [']']) [] [.closeArray] where
  ends rest := by rintro c ⟨⟩; decide
  last := ⟨_, _, rfl, rfl⟩
  spells spells := by
    rw [List.append_assoc]
    exact .blanks (newLine_blanks level) (.token rfl rfl (Nat.le_refl _) spells)
  parses {first firstTokens} parsed {steps} taken rest enough := by
    simp only [List.length_singleton] at enough
    obtain _ | steps := steps
    · omega
    · simp [parseItems, parsed (.closeArray :: rest) (show _ ≤ steps by omega)]

theorem PrintsItems.cons (level : Nat) {item : List Char} {document : Json}
    {itemTokens : List Token} {more : List Char} {items : List Json} {tokens : List Token}
    (prints : Prints item document itemTokens) (others : PrintsItems more items tokens) :
    PrintsItems (',' :: newLine level ++ item ++ more) (document :: items)
      (.comma :: itemTokens ++ tokens) where
  ends rest := by rintro c ⟨⟩; decide
  last := exists_last_append _ others.last
  spells {rest following} spells := by
    have item := prints.spells (others.ends rest) (others.spells spells)
    have blanks := Spells.blanks (newLine_blanks level) item
    simpa only [List.cons_append, List.append_assoc] using
      Spells.token (c := ',') rfl rfl (Nat.le_refl _) blanks
  parses {first firstTokens} parsed {steps} taken rest enough := by
    simp only [List.length_cons, List.length_append] at enough
    obtain _ | steps := steps
    · omega
    · have here := parsed (.comma :: (itemTokens ++ (tokens ++ rest))) (show _ ≤ steps by omega)
      have there := others.parses prints.parses (first :: taken) rest (show _ ≤ steps by omega)
      simp only [List.cons_append, List.append_assoc, parseItems, here, there]
      simp

/-- The members behind the first one of an object, up to its end. -/
structure PrintsMembers (characters : List Char) (members : List (String × Json))
    (tokens : List Token) : Prop where
  ends : ∀ rest, Ends (characters ++ rest)
  last : ∃ front c, characters = front ++ [c] ∧ isSpace c = false
  spells : ∀ {rest : List Char} {following : List Token}, Spells rest following →
    Spells (characters ++ rest) (tokens ++ following)
  parses : ∀ (name : String) {first : Json} {firstTokens : List Token},
    (∀ {steps : Nat} (rest : List Token), 2 * firstTokens.length ≤ steps →
      parseValue steps (firstTokens ++ rest) = some (first, rest)) →
    ∀ {steps : Nat} (taken : List (String × Json)) (rest : List Token),
      2 * (firstTokens.length + tokens.length) ≤ steps →
        parseMembers steps (some taken)
            (.text name :: .colon :: (firstTokens ++ (tokens ++ rest))) =
          some (.object (taken.reverse ++ (name, first) :: members), rest)

theorem PrintsMembers.nil (level : Nat) :
    PrintsMembers (newLine level ++ ['}']) [] [.closeObject] where
  ends rest := by rintro c ⟨⟩; decide
  last := ⟨_, _, rfl, rfl⟩
  spells spells := by
    rw [List.append_assoc]
    exact .blanks (newLine_blanks level) (.token rfl rfl (Nat.le_refl _) spells)
  parses name {first firstTokens} parsed {steps} taken rest enough := by
    simp only [List.length_singleton] at enough
    obtain _ | steps := steps
    · omega
    · simp [parseMembers, parsed (.closeObject :: rest) (show _ ≤ steps by omega), ofMembers,
        addMember]

/-- The tokens of a member in front of what follows it. -/
theorem spells_member (level : Nat) (name : String) {value : List Char} {document : Json}
    {tokens : List Token} (prints : Prints value document tokens) {rest : List Char}
    {following : List Token} (ends : Ends rest) (spells : Spells rest following) :
    Spells (newLine level ++ quote name ++ ':' :: ' ' :: value ++ rest)
      (.text name :: .colon :: (tokens ++ following)) := by
  have value := prints.spells ends spells
  have colon := Spells.token (c := ':') rfl rfl (Nat.le_refl _) (Spells.blank (c := ' ') rfl value)
  have named : Spells (quote name ++ _) _ :=
    .token rfl (Token.next?_quote name _) (by simp; omega) colon
  simpa only [List.cons_append, List.append_assoc] using
    Spells.blanks (newLine_blanks level) named

theorem PrintsMembers.cons (level : Nat) (name : String) {value : List Char} {document : Json}
    {valueTokens : List Token} {more : List Char} {members : List (String × Json)}
    {tokens : List Token} (prints : Prints value document valueTokens)
    (others : PrintsMembers more members tokens) :
    PrintsMembers (',' :: newLine level ++ quote name ++ ':' :: ' ' :: value ++ more)
      ((name, document) :: members)
      (.comma :: .text name :: .colon :: (valueTokens ++ tokens)) where
  ends rest := by rintro c ⟨⟩; decide
  last := exists_last_append _ others.last
  spells {rest following} spells := by
    have member := spells_member level name prints (others.ends rest) (others.spells spells)
    simpa only [List.cons_append, List.append_assoc] using
      Spells.token (c := ',') rfl rfl (Nat.le_refl _) member
  parses firstName {first firstTokens} parsed {steps} taken rest enough := by
    simp only [List.length_cons, List.length_append] at enough
    obtain _ | steps := steps
    · omega
    · have here := parsed (.comma :: .text name :: .colon :: (valueTokens ++ (tokens ++ rest)))
        (show _ ≤ steps by omega)
      have there := others.parses name prints.parses ((firstName, first) :: taken) rest
        (show _ ≤ steps by omega)
      simp only [List.cons_append, List.append_assoc, parseMembers, here, addMember, there]
      simp

/-! ### Arrays and objects -/

/-- What is parsed as a value does not begin with the end of an array. -/
theorem Prints.ne_closeArray {characters : List Char} {document : Json} {tokens : List Token}
    (prints : Prints characters document tokens) (rest more : List Token) :
    tokens ++ rest ≠ .closeArray :: more := fun same => by
  have parsed := prints.parses rest (Nat.le_add_right _ 1)
  rw [same] at parsed
  cases parsed

theorem Prints.array (level : Nat) {first items : List Char} {document : Json}
    {documents : List Json} {firstTokens tokens : List Token}
    (prints : Prints first document firstTokens) (others : PrintsItems items documents tokens) :
    Prints ('[' :: newLine level ++ first ++ items) (.array (document :: documents))
      (.openArray :: firstTokens ++ tokens) where
  spells {rest following} _ spells := by
    have value := prints.spells (others.ends rest) (others.spells spells)
    have blanks := Spells.blanks (newLine_blanks level) value
    simpa only [List.cons_append, List.append_assoc] using
      Spells.token (c := '[') rfl rfl (Nat.le_refl _) blanks
  parses {steps} rest enough := by
    simp only [List.length_cons, List.length_append] at enough
    obtain _ | steps := steps
    · omega
    · have parsed := others.parses prints.parses [] rest (show _ ≤ steps by omega)
      simp only [List.cons_append, List.append_assoc, parseValue]
      split
      · next same => exact absurd same (prints.ne_closeArray _ _)
      · simpa using parsed
  last := exists_last_append _ others.last

theorem Prints.object (level : Nat) (name : String) {value members : List Char} {document : Json}
    {documents : List (String × Json)} {valueTokens tokens : List Token}
    (prints : Prints value document valueTokens) (others : PrintsMembers members documents tokens) :
    Prints ('{' :: newLine level ++ quote name ++ ':' :: ' ' :: value ++ members)
      (.object ((name, document) :: documents))
      (.openObject :: .text name :: .colon :: (valueTokens ++ tokens)) where
  spells {rest following} _ spells := by
    have member := spells_member level name prints (others.ends rest) (others.spells spells)
    simpa only [List.cons_append, List.append_assoc] using
      Spells.token (c := '{') rfl rfl (Nat.le_refl _) member
  parses {steps} rest enough := by
    simp only [List.length_cons, List.length_append] at enough
    obtain _ | steps := steps
    · omega
    · have parsed := others.parses name prints.parses [] rest (show _ ≤ steps by omega)
      simpa only [List.cons_append, List.append_assoc, parseValue, List.reverse_nil,
        List.nil_append] using parsed
  last := exists_last_append _ others.last

/-! ### Documents -/

mutual

/-- Documents whose integers have 64 bits at most, and whose floating-point numbers are read as the
given documents. Numbers that were kept as they were written are left out. -/
def Legible (ofSingle : Float32 → Json) (ofDouble : Float → Json) : Json → Prop
  | null | boolean _ | text _ => True
  | integer value => Int64.minValue.toInt ≤ value ∧ value < UInt64.size
  | decimal _ | unreadable => False
  | single value => Reads (singleText value) (ofSingle value)
  | double value => Reads (doubleText value) (ofDouble value)
  | array items => ItemsLegible ofSingle ofDouble items
  | object members => MembersLegible ofSingle ofDouble members

def ItemsLegible (ofSingle : Float32 → Json) (ofDouble : Float → Json) : List Json → Prop
  | [] => True
  | item :: rest => item.Legible ofSingle ofDouble ∧ ItemsLegible ofSingle ofDouble rest

def MembersLegible (ofSingle : Float32 → Json) (ofDouble : Float → Json) :
    List (String × Json) → Prop
  | [] => True
  | (_, value) :: rest => value.Legible ofSingle ofDouble ∧ MembersLegible ofSingle ofDouble rest

end

variable {ofSingle : Float32 → Json} {ofDouble : Float → Json}

mutual

theorem reads_pretty : ∀ (document : Json) (level : Nat), document.Legible ofSingle ofDouble →
    Reads (pretty level document) (document.mapFloats ofSingle ofDouble)
  | null, _, _ => by simpa only [pretty, mapFloats] using reads_null
  | boolean value, _, _ => by simpa only [pretty, mapFloats] using reads_boolean value
  | text value, _, _ => by simpa only [pretty, mapFloats] using reads_text value
  | integer _, _, ⟨least, most⟩ => by
      simpa only [pretty, mapFloats] using reads_integer least most
  | single _, _, reads => by
      rw [pretty, mapFloats]
      exact reads
  | double _, _, reads => by
      rw [pretty, mapFloats]
      exact reads
  | array [], _, _ => by
      simp only [pretty, mapFloats, mapItems]
      exact ⟨_, .ofPair rfl rfl (fun _ => rfl) (fun _ => rfl) fun _ _ => rfl⟩
  | array (first :: rest), level, ⟨here, there⟩ => by
      obtain ⟨firstTokens, prints⟩ := reads_pretty first (level + 1) here
      obtain ⟨tokens, others⟩ := prints_items rest level there
      simpa only [pretty, mapFloats, mapItems] using ⟨_, prints.array (level + 1) others⟩
  | object [], _, _ => by
      simp only [pretty, mapFloats, mapMembers]
      exact ⟨_, .ofPair rfl rfl (fun _ => rfl) (fun _ => rfl) fun _ _ => rfl⟩
  | object ((name, first) :: rest), level, ⟨here, there⟩ => by
      obtain ⟨firstTokens, prints⟩ := reads_pretty first (level + 1) here
      obtain ⟨tokens, others⟩ := prints_members rest level there
      simpa only [pretty, mapFloats, mapMembers] using ⟨_, prints.object (level + 1) name others⟩

theorem prints_items : ∀ (items : List Json) (level : Nat), ItemsLegible ofSingle ofDouble items →
    ∃ tokens, PrintsItems (prettyItems level items) (mapItems ofSingle ofDouble items) tokens
  | [], level, _ => ⟨_, .nil level⟩
  | item :: rest, level, ⟨here, there⟩ => by
      obtain ⟨itemTokens, prints⟩ := reads_pretty item (level + 1) here
      obtain ⟨tokens, others⟩ := prints_items rest level there
      exact ⟨_, .cons (level + 1) prints others⟩

theorem prints_members : ∀ (members : List (String × Json)) (level : Nat),
    MembersLegible ofSingle ofDouble members →
    ∃ tokens, PrintsMembers (prettyMembers level members) (mapMembers ofSingle ofDouble members)
      tokens
  | [], level, _ => ⟨_, .nil level⟩
  | (name, value) :: rest, level, ⟨here, there⟩ => by
      obtain ⟨valueTokens, prints⟩ := reads_pretty value (level + 1) here
      obtain ⟨tokens, others⟩ := prints_members rest level there
      exact ⟨_, .cons (level + 1) name prints others⟩

end

end LightingDesk.Json
