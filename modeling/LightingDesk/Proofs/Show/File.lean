import LightingDesk.Proofs.Document.Shows
import LightingDesk.Proofs.Folder
import LightingDesk.Proofs.Json.Text
import LightingDesk.Proofs.Ron.Text
import LightingDesk.Show.File
/-!
Shows come back from documents, texts and files as they were, except that the acts of a file that is
loaded are at rest.
-/

namespace LightingDesk

open Stored (written read? toJson)

/-- No number of the value is infinite, and each of them is a number. -/
def Stored.AllFinite {α : Type} [Stored α] (value : α) : Prop :=
  (written value).AllFloats (fun x => x.isFinite = true) fun x => x.isFinite = true

namespace ShowFormat

/-- The text of the value in the notation is read as the value. -/
def Keeps (format : ShowFormat) {α : Type} [Stored α] (value : α) : Prop :=
  match format with
  | .json => Stored.ofJson? (Stored.jsonText value) = some value
  | .ron => Stored.ofRon? (Stored.ronText value) = some value

/-- The notation keeps each floating-point number of the value. -/
def KeepsFloats (format : ShowFormat) {α : Type} [Stored α] (value : α) : Prop :=
  (written value).AllFloats (fun x => format.Keeps x) fun x => format.Keeps x

/-- A notation that keeps numbers keeps everything made from them. -/
theorem KeepsFloats.keeps {format : ShowFormat} {α : Type} [Stored α] [Faithful α] {value : α}
    (kept : format.KeepsFloats value) (shallow : Faithful.levels α ≤ Ron.depthLimit) :
    format.Keeps value := by
  cases format with
  | json => exact Stored.ofJson?_jsonText value kept
  | ron => exact Stored.ofRon?_ronText value shallow kept

end ShowFormat

namespace ShowFile

variable {file : ShowFile} {format : ShowFormat}

theorem ofText_toText (kept : format.Keeps file) :
    ofText format (file.toText format) = .ok file := by
  cases format with
  | json => simp only [ofText, toText, show _ = _ from kept, Option.elim]
  | ron => simp only [ofText, toText, show _ = _ from kept, Option.elim]

/-- Versions and dates hold no floating-point numbers. -/
theorem keepsFloats (kept : format.KeepsFloats file.content) : format.KeepsFloats file :=
  ⟨trivial, ⟨trivial, trivial, trivial⟩, kept, trivial⟩

/-- A file of a folder with the text of a show file is loaded as that show file, unless it is too
large. -/
theorem load_of_find {folder : Folder} {path : String} (named : ShowFormat.ofPath path = .ok format)
    (found : folder.find path = .ok (.file (file.toText format).toUTF8))
    (kept : format.Keeps file) :
    load folder path =
      if largestSize < (file.toText format).utf8ByteSize then
        .error (.tooLarge (file.toText format).utf8ByteSize largestSize)
      else .ok file := by
  have size : (file.toText format).toUTF8.size = (file.toText format).utf8ByteSize := rfl
  have text := Folder.text_of_find found
  simp only [load, found, text, Except.mapError, bind, Except.bind, size, named, ofText_toText kept]

end ShowFile

namespace Show

theorem save_eq {path : String} {format : ShowFormat} (named : ShowFormat.ofPath path = .ok format)
    (content : Show) (now : Timestamp) :
    content.save now path = .ok ((ShowFile.ofShow content now).toText format) := by
  rw [save, ShowFile.save, named]
  rfl

/-- A show with finite numbers only is read as it was from the document that it is written to, and
so is a show file; from its text a show file is read as it was if the notation keeps its numbers. A
show that is saved at a path whose notation keeps its numbers is loaded from there as it was but for
its acts, which are at rest, or else its file is too large. Whatever the document was that a show has
been read from, the document that it is written to is read as the same show. -/
theorem round_trips :
    (∀ content : Show, Stored.AllFinite content → read? (toJson content) = some content) ∧
    (∀ file : ShowFile, Stored.AllFinite file → read? (toJson file) = some file) ∧
    (∀ (file : ShowFile) (format : ShowFormat), format.KeepsFloats file →
      ShowFile.ofText format (file.toText format) = .ok file) ∧
    (∀ (content : Show) (now : Timestamp) (path : String) (format : ShowFormat),
      ShowFormat.ofPath path = .ok format → format.KeepsFloats content →
      ∃ text, content.save now path = .ok text ∧
        ∀ folder later : Folder, folder.write path text.toUTF8 = .ok later →
          load later path =
            if ShowFile.largestSize < text.utf8ByteSize then
              .error (.tooLarge text.utf8ByteSize ShowFile.largestSize)
            else
              .ok { content with
                acts := content.acts.map fun act => { act with playback := .idle } }) ∧
    ∀ (document : Json) (content : Show), read? document = some content →
      Stored.AllFinite content → read? (toJson content) = some content := by
  refine ⟨fun content finite => Stored.read?_toJson content finite,
    fun file finite => Stored.read?_toJson file finite,
    fun file format kept => ShowFile.ofText_toText (kept.keeps (by decide)),
    fun content now path format named kept => ?_,
    fun _ content _ finite => Stored.read?_toJson content finite⟩
  have keeps : format.Keeps (ShowFile.ofShow content now) :=
    (ShowFile.keepsFloats kept).keeps (by decide)
  refine ⟨_, save_eq named content now, fun folder later written => ?_⟩
  rw [load, ShowFile.load_of_find named (Folder.find_write written) keeps]
  split <;> rfl

/-! ### A show with something of everything -/

/-- A show as it is while its act plays. -/
def overture : Show where
  name := "Overture"
  acts := [{
    id := ⟨"act"⟩, name := "Rain", description := none
    nodes := [
      ⟨⟨"wash"⟩, "Wash", .scene ⟨"blue", .empty⟩, ⟨0.5, 0⟩⟩,
      ⟨⟨"fade"⟩, "Fade", .transition .standard, .origin⟩,
      ⟨⟨"rest"⟩, "Rest", .wait .standard, .origin⟩,
      ⟨⟨"gate"⟩, "Gate", .condition ⟨.between (.osc "/gate") 0 0.5⟩, .origin⟩,
      ⟨⟨"chase"⟩, "Chase", .tracker (.ofChildren [⟨"wash"⟩]), .origin⟩]
    connections := [⟨⟨"open"⟩, ⟨"gate"⟩, ⟨"chase"⟩, .conditional, some "true", none⟩]
    startNode := some ⟨"wash"⟩
    triggers := ⟨some ⟨"/go", true⟩, none⟩
    playback := ⟨true, some ⟨"wash"⟩, 0.5⟩
    createdAt := .epoch, updatedAt := .epoch }]
  scenes := ⟨[⟨"blue", [(2, 255)]⟩]⟩
  fixtures := [⟨"par", "Par", .rgbPar, 0, 1⟩]
  universeNumber := 0

theorem floats_overture :
    (written overture).AllFloats (fun x => x = 0 ∨ x = 0.5) fun x => x = 0 ∨ x = 0.5 := by
  simp [overture, written, Written.AllFloats, Written.ItemsAllFloats, Written.FieldsAllFloats,
    Position.origin, Predicate.between, Written.ifPresent, FixtureSet.empty,
    TrackerPayload.ofChildren, FixtureProfile.rgbPar, FixtureProfile.ofLayout]

theorem allFinite_overture : Stored.AllFinite overture :=
  floats_overture.imp
    (by rintro x (rfl | rfl) <;> decide +kernel) (by rintro x (rfl | rfl) <;> decide +kernel)

theorem keepsFloats_overture : ShowFormat.ron.KeepsFloats overture := by
  refine floats_overture.imp (fun x known => Stored.ofRon?_ronText_single.2 ?_)
    fun x known => Stored.ofRon?_ronText_double.2 ?_
  · unfold Written.IsRonSingle
    rcases known with rfl | rfl <;> decide +kernel
  · unfold Written.IsRonDouble
    rcases known with rfl | rfl <;> decide +kernel

theorem utf8ByteSize_ofList_le (chars : List Char) :
    (String.ofList chars).utf8ByteSize ≤ 4 * chars.length := by
  induction chars with
  | nil => simp
  | cons c rest ih =>
      have width := c.utf8Size_le_four
      rw [String.utf8ByteSize_ofList] at ih ⊢
      simp only [String.utf8Len_cons, List.length_cons]
      omega

theorem small_overture :
    ¬ShowFile.largestSize < ((ShowFile.ofShow overture .epoch).toText .ron).utf8ByteSize := by
  have few : (Ron.pretty 0 (written (ShowFile.ofShow overture .epoch))).length ≤ 10000 := by
    simp -implicitDefEqProofs (disch := decide +kernel) only [overture, written, ShowFile.ofShow,
      Position.origin, Predicate.between, Written.ifPresent, FixtureSet.empty,
      TrackerPayload.ofChildren, FixtureProfile.rgbPar, FixtureProfile.ofLayout, Ron.pretty,
      Ron.prettyFields, Ron.prettyItems, Ron.newLine, Ron.parenthesized, Text.length_quote,
      List.map_cons, List.map_nil, List.cons_append, List.nil_append, List.length_nil,
      List.length_cons, List.length_append, List.length_replicate]
    decide +kernel
  have size := utf8ByteSize_ofList_le (Ron.pretty 0 (written (ShowFile.ofShow overture .epoch)))
  simp only [ShowFile.largestSize, ShowFile.toText, Stored.ronText, Ron.renderPretty]
  omega

/-- A single name is the path of a file in the working directory. -/
theorem write_name {name : String} (parts : Folder.namedParts name = [name])
    (noFault : Folder.pathFault? name = none) (start : Place.start name = .here)
    (noSlash : name.endsWith '/' = false)
    (followed : (⟨[], []⟩ : Folder).follow .here name = .ok ⟨some 0, [name]⟩) (bytes : ByteArray) :
    (⟨[], []⟩ : Folder).write name bytes = .ok ⟨[(⟨some 0, [name]⟩, bytes)], []⟩ := by
  have noDirectory : (⟨[], []⟩ : Folder).isDirectory ⟨some 0, [name]⟩ = false := rfl
  simp only [Folder.write, Folder.followAll, noFault, parts, start, bind, Except.bind,
    List.dropLast_singleton, List.foldlM_nil, pure, Except.pure, List.getLast?_singleton,
    Option.getD_some, followed, noSlash, noDirectory, Bool.or_self, Bool.false_eq_true, if_false,
    List.filter_nil]

theorem write_desk (bytes : ByteArray) :
    (⟨[], []⟩ : Folder).write "desk.ron" bytes = .ok ⟨[(⟨some 0, ["desk.ron"]⟩, bytes)], []⟩ := by
  refine write_name ?_ ?_ (by decide +kernel) (by decide +kernel) rfl bytes
  · rw [Folder.namedParts, Path.splitOn_slash]
    decide +kernel
  · rw [Folder.pathFault?, String.contains_char_eq]
    decide +kernel

theorem ofPath_ron : ShowFormat.ofPath "desk.ron" = .ok .ron := by
  have extension : Path.extension? "desk.ron" = some "ron" := by decide +kernel
  rw [ShowFormat.ofPath, extension]
  rfl

theorem round_trips_overture :
    read? (toJson overture) = some overture ∧
    read? (toJson (ShowFile.ofShow overture .epoch)) = some (ShowFile.ofShow overture .epoch) ∧
    ShowFile.ofText .ron ((ShowFile.ofShow overture .epoch).toText .ron) =
      .ok (ShowFile.ofShow overture .epoch) ∧
    (∃ text later, overture.save .epoch "desk.ron" = .ok text ∧
      (⟨[], []⟩ : Folder).write "desk.ron" text.toUTF8 = .ok later ∧
      load later "desk.ron" = .ok { overture with
        acts := overture.acts.map fun act => { act with playback := .idle } }) ∧
    read? (Json.array [.text "Dark"]) = some (Show.empty "Dark") ∧
      read? (toJson (Show.empty "Dark")) = some (Show.empty "Dark") := by
  obtain ⟨shows, files, texts, saves, stable⟩ := round_trips
  have dark : read? (Json.array [.text "Dark"]) = some (Show.empty "Dark") := by
    rfl
  refine ⟨shows _ allFinite_overture,
    files _ ⟨trivial, ⟨trivial, trivial, trivial⟩, allFinite_overture, trivial⟩,
    texts _ _ (ShowFile.keepsFloats keepsFloats_overture), ?_, dark, stable _ _ dark ?_⟩
  · obtain ⟨text, saved, loads⟩ := saves overture .epoch "desk.ron" .ron ofPath_ron keepsFloats_overture
    have same := saved.symm.trans (save_eq ofPath_ron overture .epoch)
    refine ⟨text, _, saved, write_desk _, ?_⟩
    rw [loads _ _ (write_desk _), Except.ok.inj same, if_neg small_overture]
  · simp [Stored.AllFinite, Show.empty, SceneLibrary.empty, written, Written.AllFloats,
      Written.ItemsAllFloats, Written.FieldsAllFloats]

end Show

end LightingDesk
