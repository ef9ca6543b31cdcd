import LightingDesk.Proofs.Show.Reload
/-!
The version of a show file. It is compared when the whole file has been read in the shape of the
current version, so only a file that has that shape is refused for its version.
-/

namespace LightingDesk

open Stored (read? written)

/-! ### The version and the rest of a show file -/

namespace ShowFile

variable {δ : Type} [Source δ]

/-- The fields of a show file, if each of them stands once. -/
def row? (document : δ) : Option (Row δ) :=
  Source.record? "ShowFile" ["version", "metadata", "show"] document

/-- The version in a document, whatever the other fields hold. -/
def version? (document : δ) : Option String :=
  (row? document).bind fun row => row.required "version"

/-- The dates and the show in a document, whatever its version is. -/
def body? (document : δ) : Option (ShowDates × Show) := do
  let row ← row? document
  some (← row.required "metadata", ← row.required "show")

theorem read?_eq (document : δ) :
    (read? document : Option ShowFile) =
      (version? document).bind fun version =>
        (body? document).map fun body => ⟨version, body.1, body.2⟩ := by
  change (row? document).bind _ = _
  rw [version?, body?]
  cases row? document with
  | none => rfl
  | some row =>
      -- the version is the first field that is read, here as there
      change (row.required "version").bind _ = (row.required "version").bind _
      congr 1
      funext version
      cases dates : (row.required "metadata" : Option ShowDates) with
      | none => simp [dates]
      | some dates =>
          cases content : (row.required "show" : Option Show) <;> simp [*]

end ShowFile

namespace ShowFormat

/-- What is read from the document of a text. Nothing is the answer for a text that is no document
of the notation. -/
def part? {β : Type} (format : ShowFormat) (part : {δ : Type} → [Source δ] → δ → Option β)
    (text : String) : Option β :=
  match format with
  | .json => (Json.parse? text).bind part
  | .ron => (Ron.Document.parse? text).bind part

def version? (format : ShowFormat) (text : String) : Option String :=
  format.part? ShowFile.version? text

def body? (format : ShowFormat) (text : String) : Option (ShowDates × Show) :=
  format.part? ShowFile.body? text

/-- The error for texts that are not read. -/
def unread : ShowFormat → ShowError
  | .json => .notJson
  | .ron => .notRon

theorem part?_read? (format : ShowFormat) (text : String) :
    format.part? read? text =
      (format.version? text).bind fun version =>
        (format.body? text).map fun body => (⟨version, body.1, body.2⟩ : ShowFile) := by
  have joined {δ : Type} [Source δ] (parsed : Option δ) :
      parsed.bind read? = (parsed.bind ShowFile.version?).bind fun version =>
        (parsed.bind ShowFile.body?).map fun body => (⟨version, body.1, body.2⟩ : ShowFile) := by
    cases parsed with
    | none => rfl
    | some document => exact ShowFile.read?_eq document
  cases format with
  | json => exact joined (Json.parse? text)
  | ron => exact joined (Ron.Document.parse? text)

theorem ofText_eq (format : ShowFormat) (text : String) :
    ShowFile.ofText format text =
      ((format.version? text).bind fun version =>
        (format.body? text).map fun body => (⟨version, body.1, body.2⟩ : ShowFile)).elim
          (.error format.unread) .ok := by
  rw [← part?_read?]
  cases format <;> rfl

end ShowFormat

/-! ### What files are refused for -/

/-- A file of a folder that has this text and is not too large. Its name says in which notation it is
to be read. -/
structure Folder.Holds (folder : Folder) (path : String) (format : ShowFormat) (text : String) :
    Prop where
  found : folder.find path = .ok (.file text.toUTF8)
  small : text.utf8ByteSize ≤ ShowFile.largestSize
  named : ShowFormat.ofPath path = .ok format

namespace Show

variable {folder : Folder} {path text : String} {format : ShowFormat}

/-- The version is compared last. -/
theorem load_cases (holds : folder.Holds path format text) :
    (format.version? text = none ∨ format.body? text = none) ∧
      load folder path = .error format.unread ∨
    ∃ version body, format.version? text = some version ∧ format.body? text = some body ∧
      load folder path =
        if version = ShowFile.currentVersion then .ok body.2.atRest
        else .error (.wrongVersion ShowFile.currentVersion version) := by
  rw [load, ShowFile.load_eq holds.named holds.found, if_neg (Nat.not_lt.2 holds.small),
    ShowFormat.ofText_eq]
  cases format.version? text with
  | none => exact .inl ⟨.inl rfl, rfl⟩
  | some version =>
      cases format.body? text with
      | none => exact .inl ⟨.inr rfl, rfl⟩
      | some body => exact .inr ⟨version, body, rfl, rfl, rfl⟩

theorem load_eq_wrongVersion_iff (holds : folder.Holds path format text) {expected found : String} :
    load folder path = .error (.wrongVersion expected found) ↔
      expected = ShowFile.currentVersion ∧ found ≠ ShowFile.currentVersion ∧
        format.version? text = some found ∧ (format.body? text).isSome := by
  have other : format.unread ≠ .wrongVersion expected found := by cases format <;> nofun
  rcases load_cases holds with ⟨none | none, loads⟩ | ⟨version, body, named, whole, loads⟩
  · simp [loads, none, other]
  · simp [loads, none, other]
  · by_cases current : version = ShowFile.currentVersion
    · rw [loads, if_pos current, named, current]
      refine ⟨nofun, fun ⟨_, differs, same, _⟩ => ?_⟩
      exact absurd (Option.some.inj same).symm differs
    · rw [loads, if_neg current, named, whole]
      constructor
      · rintro ⟨⟩
        exact ⟨rfl, current, rfl, rfl⟩
      · rintro ⟨rfl, -, ⟨⟩, -⟩
        rfl

theorem load_eq_unread_iff (holds : folder.Holds path format text) :
    load folder path = .error format.unread ↔
      format.version? text = none ∨ format.body? text = none := by
  have other (expected found : String) : ShowError.wrongVersion expected found ≠ format.unread := by
    cases format <;> nofun
  rcases load_cases holds with ⟨none, loads⟩ | ⟨version, body, named, whole, loads⟩
  · exact iff_of_true loads none
  · by_cases current : version = ShowFile.currentVersion <;>
      simp [loads, current, named, whole, other]

theorem load_eq_ok_iff (holds : folder.Holds path format text) {content : Show} :
    load folder path = .ok content ↔
      format.version? text = some ShowFile.currentVersion ∧
        ∃ body, format.body? text = some body ∧ body.2.atRest = content := by
  rcases load_cases holds with ⟨none | none, loads⟩ | ⟨version, body, named, whole, loads⟩
  · simp [loads, none]
  · simp [loads, none]
  · by_cases current : version = ShowFile.currentVersion <;> simp [loads, current, named, whole]

/-- What becomes of a file with the text of a show file of another version. -/
theorem load_other {file : ShowFile} (holds : folder.Holds path format (file.toText format))
    (other : file.version ≠ ShowFile.currentVersion) :
    load folder path =
      .error (if format = .ron ∨ file.content.isFinite then
        .wrongVersion ShowFile.currentVersion file.version else .notJson) := by
  rw [load, ShowFile.load_eq holds.named holds.found, if_neg (Nat.not_lt.2 holds.small),
    ShowFile.ofText_toText_eq]
  cases format with
  | ron => simp [ShowFormat.reread?, bind, Except.bind, other]
  | json =>
      have finite := Retold.isSome_reread?_show file.content
      -- the show alone may be lost; the version and the dates are texts
      change (((Retold.reread? file.content).bind fun content =>
        some { file with content }).elim _ _ >>= _) = _
      cases heard : Retold.reread? file.content with
      | none =>
          rw [heard] at finite
          simp [← finite, bind, Except.bind]
      | some content =>
          rw [heard] at finite
          simp [← finite, bind, Except.bind, other]

/-- A file is refused for its version exactly if it has another version than the current one and the
shape of the current one. Otherwise it is a parse error, of whatever version it is, unless it has
the current version as well as its shape. So the text of a show file of another version is refused
for its version, unless a number is missing from it that JSON has no text for. -/
theorem mismatches (holds : folder.Holds path format text) :
    (∀ expected found, load folder path = .error (.wrongVersion expected found) ↔
      expected = ShowFile.currentVersion ∧ found ≠ ShowFile.currentVersion ∧
        format.version? text = some found ∧ (format.body? text).isSome) ∧
    (load folder path = .error format.unread ↔
      format.version? text = none ∨ format.body? text = none) ∧
    (∀ content, load folder path = .ok content ↔
      format.version? text = some ShowFile.currentVersion ∧
        ∃ body, format.body? text = some body ∧ body.2.atRest = content) ∧
    ∀ file : ShowFile, file.toText format = text → file.version ≠ ShowFile.currentVersion →
      load folder path =
        .error (if format = .ron ∨ file.content.isFinite then
          .wrongVersion ShowFile.currentVersion file.version else .notJson) := by
  refine ⟨fun _ _ => load_eq_wrongVersion_iff holds, load_eq_unread_iff holds,
    fun _ => load_eq_ok_iff holds, ?_⟩
  rintro file rfl other
  exact load_other holds other

/-- A show file of an earlier version, in the shape of the current one. -/
def ancient : ShowFile := ⟨"0.1.0", ⟨.epoch, .epoch⟩, .empty "Old"⟩

theorem small_ancient : (ancient.toText .ron).utf8ByteSize ≤ ShowFile.largestSize := by
  have few : (Ron.pretty 0 (written ancient)).length ≤ 10000 := by
    simp -implicitDefEqProofs (disch := decide +kernel) only [ancient, written, Show.empty,
      SceneLibrary.empty, Ron.pretty, Ron.prettyFields, Ron.newLine, Ron.parenthesized,
      Text.length_quote, List.map_nil, List.cons_append, List.nil_append, List.length_nil,
      List.length_cons, List.length_append, List.length_replicate]
    decide +kernel
  have size := utf8ByteSize_ofList_le (Ron.pretty 0 (written ancient))
  simp only [ShowFile.largestSize, ShowFile.toText, Stored.ronText, Ron.renderPretty]
  omega

theorem mismatches_ancient :
    ∃ later, (⟨[], []⟩ : Folder).write "desk.ron" (ancient.toText .ron).toUTF8 = .ok later ∧
      later.Holds "desk.ron" .ron (ancient.toText .ron) ∧
      load later "desk.ron" = .error (.wrongVersion "1.0.0" "0.1.0") ∧
      ShowFormat.ron.version? (ancient.toText .ron) = some "0.1.0" := by
  have holds : Folder.Holds ⟨[(⟨some 0, ["desk.ron"]⟩, (ancient.toText .ron).toUTF8)], []⟩
      "desk.ron" .ron (ancient.toText .ron) :=
    ⟨Folder.find_write (write_desk _), small_ancient, ofPath_ron⟩
  obtain ⟨refused, -, -, others⟩ := mismatches holds
  have loads := others ancient rfl (by decide)
  obtain ⟨-, -, version, -⟩ := (refused "1.0.0" "0.1.0").1 loads
  exact ⟨_, write_desk _, holds, loads, version⟩

/-- A file of a version to come, in which shows have titles and not names. -/
def outgrown : Json := .object [
  ("version", .text "2.0.0"),
  ("metadata", .object [("created_at", .text "2024-01-01T00:00:00Z"),
    ("modified_at", .text "2024-01-01T00:00:00Z")]),
  ("show", .object [("title", .text "Next")])]

theorem parse?_outgrown : Json.parse? outgrown.renderPretty = some outgrown :=
  Json.parse?_of_reads <| Json.reads_pretty outgrown 0
    (⟨trivial, ⟨trivial, trivial, trivial⟩, ⟨trivial, trivial⟩, trivial⟩ :
      outgrown.Legible Json.ofSingleText Json.ofDoubleText)

/-- A small file that says that its version is not the current one, and that is a parse error. -/
theorem misread_outgrown :
    ∃ later, (⟨[], []⟩ : Folder).write "desk.json" outgrown.renderPretty.toUTF8 = .ok later ∧
      later.Holds "desk.json" .json outgrown.renderPretty ∧
      ShowFormat.json.version? outgrown.renderPretty = some "2.0.0" ∧
      "2.0.0" ≠ ShowFile.currentVersion ∧ load later "desk.json" = .error .notJson := by
  have holds : Folder.Holds ⟨[(⟨some 0, ["desk.json"]⟩, outgrown.renderPretty.toUTF8)], []⟩
      "desk.json" .json outgrown.renderPretty :=
    ⟨Folder.find_write (write_json _), by decide +kernel, ofPath_json⟩
  have version : ShowFormat.json.version? outgrown.renderPretty = some "2.0.0" := by
    rw [ShowFormat.version?, ShowFormat.part?, parse?_outgrown]
    rfl
  have body : ShowFormat.json.body? outgrown.renderPretty = none := by
    rw [ShowFormat.body?, ShowFormat.part?, parse?_outgrown]
    rfl
  exact ⟨_, write_json _, holds, version, by decide,
    (load_eq_unread_iff holds).2 (.inr body)⟩

end Show

end LightingDesk
