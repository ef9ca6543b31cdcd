import LightingDesk.Proofs.Json.Retold
import LightingDesk.Proofs.Ron.Number
import LightingDesk.Proofs.Show.File
/-!
What is loaded from where a show has been saved.
-/

namespace LightingDesk

open Stored (written)

/-! ### Values without numbers -/

instance : Floatless ActId := ⟨fun _ => trivial⟩

instance : Floatless NodeId := ⟨fun _ => trivial⟩

instance : Floatless Timestamp := ⟨fun _ => trivial⟩

instance : Floatless Comparison := ⟨fun _ => trivial⟩

instance : Floatless ShowDates := ⟨fun _ => ⟨trivial, trivial, trivial⟩⟩

instance : Floatless Signal where
  floatless signal := by
    cases signal with
    | time | osc | dmx | midi => simp [written, Written.AllFloats, Written.FieldsAllFloats]

instance : Floatless ScenePayload :=
  ⟨fun payload => ⟨trivial, Floatless.floatless payload.mutedFixtures.ids, trivial⟩⟩

instance : Floatless WaitPayload := ⟨fun _ => ⟨trivial, trivial⟩⟩

instance : Floatless TransitionPayload := ⟨fun _ => ⟨trivial, trivial, trivial, trivial⟩⟩

instance : Floatless TrackerPayload :=
  ⟨fun payload => ⟨Floatless.floatless payload.children, trivial, trivial,
    ⟨trivial, trivial, trivial⟩, trivial⟩⟩

instance : Floatless Connection where
  floatless connection := by
    cases guard : connection.guard <;> cases timeout : connection.timeoutMs <;>
      simp [written, Written.AllFloats, Written.FieldsAllFloats, Written.ifPresent, guard, timeout]

instance : Floatless OscTrigger := ⟨fun _ => ⟨trivial, trivial, trivial⟩⟩

instance : Floatless MidiTrigger := ⟨fun _ => ⟨trivial, trivial, trivial, trivial⟩⟩

instance : Floatless Triggers :=
  ⟨fun triggers => ⟨Floatless.floatless triggers.osc, Floatless.floatless triggers.midi, trivial⟩⟩

instance : Floatless Scene :=
  ⟨fun scene => ⟨trivial, Floatless.floatless scene.levels, trivial⟩⟩

instance : Floatless SceneLibrary := ⟨fun library => ⟨Floatless.floatless library.scenes, trivial⟩⟩

instance : Floatless FixtureChannel := ⟨fun _ => ⟨trivial, trivial, trivial, trivial⟩⟩

instance : Floatless FixtureProfile :=
  ⟨fun profile => ⟨trivial, trivial, Floatless.floatless profile.channels, trivial⟩⟩

instance : Floatless Fixture :=
  ⟨fun fixture => ⟨trivial, trivial, Floatless.floatless fixture.profile, trivial, trivial, trivial⟩⟩

/-! ### Values with numbers -/

namespace Retold

instance : Retold Position where
  reread? position := do some ⟨← reread? position.x, ← reread? position.y⟩
  read?_retold position := by
    obtain ⟨row, found, fields⟩ :=
      Written.exists_row (written position) rfl ["x", "y"] (by simp) (by simp)
    simp [Stored.read?, found, fields.required "x" (read?_retold position.x) rfl,
      fields.required "y" (read?_retold position.y) rfl]

instance : Retold Predicate where
  reread? predicate := do
    some { predicate with value := ← reread? predicate.value, upper := ← reread? predicate.upper }
  read?_retold predicate := by
    obtain ⟨row, found, fields⟩ :=
      Written.exists_row (written predicate) rfl ["source", "operator", "value", "upper"]
        (by cases predicate.upper <;> simp [Written.ifPresent])
        (by cases predicate.upper <;> simp [Written.ifPresent])
    simp [Stored.read?, found,
      fields.required "source" (Stored.read?_retold predicate.source) rfl,
      fields.defaulted "operator" .equals (Stored.read?_retold predicate.operator) rfl,
      fields.required "value" (read?_retold predicate.value) rfl,
      fields.ifPresent "upper" (read?_retold predicate.upper) rfl]

instance : Retold ConditionPayload where
  reread? payload := do some ⟨← reread? payload.predicate⟩
  read?_retold payload := by
    obtain ⟨row, found, fields⟩ :=
      Written.exists_row (written payload) rfl ["predicate"] (by simp) (by simp)
    simp [Stored.read?, found, fields.required "predicate" (read?_retold payload.predicate) rfl]

/-- Only conditions hold numbers. -/
instance : Retold NodeKind where
  reread?
    | .condition payload => (reread? payload).map .condition
    | kind => some kind
  read?_retold kind := by
    cases kind with
    | condition payload =>
        change (Stored.read? (written payload).retold).bind _ =
          (reread? payload).map NodeKind.condition
        rw [read?_retold payload]
        cases reread? payload <;> rfl
    | scene payload | transition payload | wait payload | tracker payload =>
        change (Stored.read? (written payload).retold).bind _ = _
        rw [Stored.read?_retold payload]
        rfl

instance : Retold ActNode where
  reread? node := do
    some { node with kind := ← reread? node.kind, position := ← reread? node.position }
  read?_retold node := by
    obtain ⟨row, found, fields⟩ :=
      Written.exists_row (written node) rfl ["id", "name", "kind", "position"] (by simp) (by simp)
    simp [Stored.read?, found, fields.required "id" (Stored.read?_retold node.id) rfl,
      fields.required "name" (Stored.read?_retold node.name) rfl,
      fields.required "kind" (read?_retold node.kind) rfl,
      fields.defaulted "position" .origin (read?_retold node.position) rfl]

instance : Retold PlaybackState where
  reread? state := do some { state with progress := ← reread? state.progress }
  read?_retold state := by
    obtain ⟨row, found, fields⟩ := Written.exists_row (written state) rfl
      ["is_playing", "current_node_id", "progress"] (by simp) (by simp)
    simp [Stored.read?, found,
      fields.required "is_playing" (Stored.read?_retold state.isPlaying) rfl,
      fields.optional "current_node_id" (Stored.read?_retold state.currentNode) rfl,
      fields.required "progress" (read?_retold state.progress) rfl]

instance : Retold Act where
  reread? act := do
    some { act with nodes := ← reread? act.nodes, playback := ← reread? act.playback }
  read?_retold act := by
    obtain ⟨row, found, fields⟩ := Written.exists_row (written act) rfl
      ["id", "name", "description", "nodes", "connections", "start_node_id", "triggers",
        "playback", "created_at", "updated_at"] (by simp) (by simp)
    simp [Stored.read?, found, fields.required "id" (Stored.read?_retold act.id) rfl,
      fields.required "name" (Stored.read?_retold act.name) rfl,
      fields.defaulted "description" none (Stored.read?_retold act.description) rfl,
      fields.required "nodes" (read?_retold act.nodes) rfl,
      fields.required "connections" (Stored.read?_retold act.connections) rfl,
      fields.defaulted "start_node_id" none (Stored.read?_retold act.startNode) rfl,
      fields.defaulted "triggers" .none (Stored.read?_retold act.triggers) rfl,
      fields.defaulted "playback" .idle (read?_retold act.playback) rfl,
      fields.required "created_at" (Stored.read?_retold act.createdAt) rfl,
      fields.required "updated_at" (Stored.read?_retold act.updatedAt) rfl]

instance : Retold Show where
  reread? content := do some { content with acts := ← reread? content.acts }
  read?_retold content := by
    obtain ⟨row, found, fields⟩ := Written.exists_row (written content) rfl
      ["name", "acts", "scenes", "fixtures", "universe"] (by simp) (by simp)
    simp [Stored.read?, found, fields.required "name" (Stored.read?_retold content.name) rfl,
      fields.defaulted "acts" [] (read?_retold content.acts) rfl,
      fields.defaulted "scenes" .empty (Stored.read?_retold content.scenes) rfl,
      fields.defaulted "fixtures" [] (Stored.read?_retold content.fixtures) rfl,
      fields.defaulted "universe" 0 (Stored.read?_retold content.universeNumber) rfl]

instance : Retold ShowFile where
  reread? file := do some { file with content := ← reread? file.content }
  read?_retold file := by
    obtain ⟨row, found, fields⟩ := Written.exists_row (written file) rfl
      ["version", "metadata", "show"] (by simp) (by simp)
    simp [Stored.read?, found, fields.required "version" (Stored.read?_retold file.version) rfl,
      fields.required "metadata" (Stored.read?_retold file.dates) rfl,
      fields.required "show" (read?_retold file.content) rfl]

end Retold

/-! ### Which values come back -/

/-- The numbers that the node is read back by are finite: its place, and what a condition compares
with. -/
def ActNode.isFinite (node : ActNode) : Bool :=
  node.position.x.isFinite && node.position.y.isFinite &&
    match node.kind with
    | .condition payload => payload.predicate.value.isFinite
    | _ => true

def Act.isFinite (act : Act) : Bool :=
  act.nodes.all ActNode.isFinite && act.playback.progress.isFinite

def Show.isFinite (content : Show) : Bool := content.acts.all Act.isFinite

/-- What the predicate compares with has few digits. -/
def Predicate.IsShort (predicate : Predicate) : Prop :=
  Json.IsShort predicate.value ∧ ∀ upper, predicate.upper = some upper → Json.IsShort upper

def ActNode.predicates (node : ActNode) : List Predicate :=
  match node.kind with
  | .condition payload => [payload.predicate]
  | _ => []

def Act.predicates (act : Act) : List Predicate := act.nodes.flatMap ActNode.predicates

/-- The predicates of all conditions. -/
def Show.predicates (content : Show) : List Predicate := content.acts.flatMap Act.predicates

namespace Retold

theorem isSome_reread?_position (position : Position) :
    (reread? position).isSome = (position.x.isFinite && position.y.isFinite) := by
  rw [← isSome_reread?_single, ← isSome_reread?_single]
  change ((reread? position.x).bind fun x => (reread? position.y).bind fun y => _).isSome = _
  cases reread? position.x <;> cases reread? position.y <;> rfl

theorem isSome_reread?_predicate (predicate : Predicate) :
    (reread? predicate).isSome = predicate.value.isFinite := by
  rw [← isSome_reread?_double]
  change ((reread? predicate.value).bind fun value => _).isSome = _
  cases reread? predicate.value <;> rfl

theorem isSome_reread?_node (node : ActNode) : (reread? node).isSome = node.isFinite := by
  have place := isSome_reread?_position node.position
  rw [ActNode.isFinite, ← place]
  change ((reread? node.kind).bind fun kind => (reread? node.position).bind fun position => _).isSome = _
  cases node.kind with
  | condition payload =>
      dsimp only
      rw [← isSome_reread?_predicate]
      change ((((reread? payload.predicate).bind fun predicate => _).map _).bind fun kind =>
        (reread? node.position).bind fun position => _).isSome = _
      cases reread? payload.predicate <;> cases reread? node.position <;> rfl
  | scene payload | transition payload | wait payload | tracker payload =>
      change ((reread? node.position).bind fun position => _).isSome = _
      cases reread? node.position <;> rfl

theorem isSome_reread?_act (act : Act) : (reread? act).isSome = act.isFinite := by
  have nodes := isSome_reread?_list act.nodes
  simp only [isSome_reread?_node] at nodes
  rw [Act.isFinite, ← isSome_reread?_single]
  change ((reread? act.nodes).bind fun nodes =>
    ((reread? act.playback.progress).bind fun progress => _).bind fun playback => _).isSome = _
  rw [← nodes]
  cases reread? act.nodes <;> cases reread? act.playback.progress <;> rfl

theorem isSome_reread?_show (content : Show) : (reread? content).isSome = content.isFinite := by
  have acts := isSome_reread?_list content.acts
  simp only [isSome_reread?_act] at acts
  rw [Show.isFinite, ← acts]
  change ((reread? content.acts).bind fun acts => _).isSome = _
  cases reread? content.acts <;> rfl

/-- Few digits come back as they were. -/
theorem reread?_predicate {predicate : Predicate} (short : predicate.IsShort) :
    reread? predicate = some predicate := by
  have upper : reread? predicate.upper = some predicate.upper := by
    cases bound : predicate.upper with
    | none => rfl
    | some x => exact congrArg some (reread?_of_isShort (short.2 x bound))
  change ((reread? predicate.value).bind fun value => (reread? predicate.upper).bind fun upper =>
    some { predicate with value, upper }) = _
  rw [reread?_of_isShort short.1, upper]
  rfl

theorem predicates_node {node other : ActNode} (heard : reread? node = some other)
    (short : ∀ predicate ∈ node.predicates, predicate.IsShort) :
    other.predicates = node.predicates := by
  change ((reread? node.kind).bind fun kind => (reread? node.position).bind fun position =>
    some { node with kind, position }) = _ at heard
  obtain ⟨kind, kept, heard⟩ := Option.bind_eq_some_iff.1 heard
  obtain ⟨position, -, same⟩ := Option.bind_eq_some_iff.1 heard
  cases same
  unfold ActNode.predicates at short ⊢
  cases shape : node.kind with
  | condition payload =>
      rw [shape] at kept short
      have read := reread?_predicate (short payload.predicate List.mem_cons_self)
      change ((reread? payload.predicate).bind fun predicate => _).map _ = _ at kept
      rw [read] at kept
      cases kept
      rfl
  | scene payload | transition payload | wait payload | tracker payload =>
      rw [shape] at kept
      cases kept
      rfl

theorem predicates_act {act other : Act} (heard : reread? act = some other)
    (short : ∀ predicate ∈ act.predicates, predicate.IsShort) :
    other.predicates = act.predicates := by
  change ((reread? act.nodes).bind fun nodes => (reread? act.playback).bind fun playback =>
    some { act with nodes, playback }) = _ at heard
  obtain ⟨nodes, kept, heard⟩ := Option.bind_eq_some_iff.1 heard
  obtain ⟨playback, -, same⟩ := Option.bind_eq_some_iff.1 heard
  cases same
  exact flatMap_reread? kept fun node member _ heard => predicates_node heard fun predicate inside =>
    short predicate (List.mem_flatMap.2 ⟨node, member, inside⟩)

theorem predicates_show {content other : Show} (heard : reread? content = some other)
    (short : ∀ predicate ∈ content.predicates, predicate.IsShort) :
    other.predicates = content.predicates := by
  obtain ⟨acts, kept, same⟩ := Option.bind_eq_some_iff.1 heard
  cases same
  exact flatMap_reread? kept fun act member _ heard => predicates_act heard fun predicate inside =>
    short predicate (List.mem_flatMap.2 ⟨act, member, inside⟩)

end Retold

/-! ### Files -/

/-- What a value comes back as from its text in a notation. -/
def ShowFormat.reread? (format : ShowFormat) {α : Type} [Stored α] [Retold α] (value : α) : Option α :=
  match format with
  | .json => Retold.reread? value
  | .ron => some value

/-- RON keeps every number of a value. -/
theorem ShowFormat.keepsFloats_ron {α : Type} [Stored α] (value : α) : ShowFormat.ron.KeepsFloats value :=
  .of_forall (fun x => Stored.ofRon?_ronText_single.2 (Written.isRonSingle x))
    (fun x => Stored.ofRon?_ronText_double.2 (Written.isRonDouble x)) _

namespace ShowFile

/-- A file of a folder is loaded as what its text is read as, unless it is too large. -/
theorem load_eq {folder : Folder} {path text : String} {format : ShowFormat}
    (named : ShowFormat.ofPath path = .ok format)
    (found : folder.find path = .ok (.file text.toUTF8)) :
    load folder path =
      if largestSize < text.utf8ByteSize then .error (.tooLarge text.utf8ByteSize largestSize)
      else ofText format text := by
  have size : text.toUTF8.size = text.utf8ByteSize := rfl
  simp only [load, found, Folder.text_of_find found, Except.mapError, bind, Except.bind, size, named]

theorem reread?_ofShow (format : ShowFormat) (content : Show) (now : Timestamp) :
    format.reread? (ofShow content now) =
      (format.reread? content).map fun content => ofShow content now := by
  cases format with
  | ron => rfl
  | json =>
      change (Retold.reread? content).bind _ = (Retold.reread? content).map _
      cases Retold.reread? content <;> rfl

theorem ofText_toText_eq (file : ShowFile) (format : ShowFormat) :
    ofText format (file.toText format) = (format.reread? file).elim (.error .notJson) .ok := by
  cases format with
  | ron => exact ofText_toText ((ShowFormat.keepsFloats_ron file).keeps (by decide))
  | json => rw [ofText, toText, Retold.ofJson?_jsonText]; rfl

end ShowFile

namespace Show

theorem load_eq {content : Show} {now : Timestamp} {path : String} {format : ShowFormat}
    (named : ShowFormat.ofPath path = .ok format) {folder later : Folder}
    (written : folder.write path ((ShowFile.ofShow content now).toText format).toUTF8 = .ok later) :
    load later path =
      if ShowFile.largestSize < ((ShowFile.ofShow content now).toText format).utf8ByteSize then
        .error (.tooLarge ((ShowFile.ofShow content now).toText format).utf8ByteSize
          ShowFile.largestSize)
      else (format.reread? content).elim (.error .notJson) fun content => .ok content.atRest := by
  rw [load, ShowFile.load_eq named (Folder.find_write written), ShowFile.ofText_toText_eq,
    ShowFile.reread?_ofShow]
  split
  · rfl
  · cases format.reread? content <;> rfl

/-- A show that has been saved is loaded from there as what its text says, unless the file is too large.
RON says everything, and JSON says something if the numbers that it needs are finite. What conditions
compare with comes back as it was from RON, and from JSON if it has few digits. -/
theorem reloads (content : Show) (now : Timestamp) (path : String) (format : ShowFormat)
    (named : ShowFormat.ofPath path = .ok format) :
    (∃ text, content.save now path = .ok text ∧
      ∀ folder later : Folder, folder.write path text.toUTF8 = .ok later →
        load later path =
          if ShowFile.largestSize < text.utf8ByteSize then
            .error (.tooLarge text.utf8ByteSize ShowFile.largestSize)
          else
            (format.reread? content).elim (.error .notJson) fun content => .ok content.atRest) ∧
    (format.reread? content).isSome = (format == .ron || content.isFinite) ∧
    ∀ other, format.reread? content = some other →
      (format = .ron ∨ ∀ predicate ∈ content.predicates, predicate.IsShort) →
        other.predicates = content.predicates := by
  refine ⟨⟨_, save_eq named content now, fun _ _ => load_eq named⟩, ?_⟩
  cases format with
  | ron =>
      refine ⟨rfl, fun other same _ => ?_⟩
      cases same
      rfl
  | json =>
      refine ⟨Retold.isSome_reread?_show content, fun other heard why => ?_⟩
      exact Retold.predicates_show heard (why.resolve_left nofun)

theorem reloads_overture :
    ∃ text later, overture.save .epoch "desk.ron" = .ok text ∧
      (⟨[], []⟩ : Folder).write "desk.ron" text.toUTF8 = .ok later ∧
      load later "desk.ron" = .ok overture.atRest := by
  obtain ⟨⟨text, saved, loads⟩, -, -⟩ := reloads overture .epoch "desk.ron" .ron ofPath_ron
  have same := saved.symm.trans (save_eq ofPath_ron overture .epoch)
  refine ⟨text, _, saved, write_desk _, ?_⟩
  rw [loads _ _ (write_desk _), Except.ok.inj same, if_neg small_overture]
  rfl

/-- A show with a node that stands infinitely far to the right. -/
def faraway : Show where
  name := "Faraway"
  acts := [{
    id := ⟨"act"⟩, name := "Act", description := none
    nodes := [⟨⟨"rest"⟩, "Rest", .wait .standard, ⟨1 / 0, 0⟩⟩]
    connections := [], startNode := none, triggers := .none, playback := .idle
    createdAt := .epoch, updatedAt := .epoch }]
  scenes := .empty
  fixtures := []
  universeNumber := 0

theorem write_json (bytes : ByteArray) :
    (⟨[], []⟩ : Folder).write "desk.json" bytes = .ok ⟨[(⟨some 0, ["desk.json"]⟩, bytes)], []⟩ := by
  refine write_name ?_ ?_ (by decide +kernel) (by decide +kernel) rfl bytes
  · rw [Folder.namedParts, Path.splitOn_slash]
    decide +kernel
  · rw [Folder.pathFault?, String.contains_char_eq]
    decide +kernel

theorem ofPath_json : ShowFormat.ofPath "desk.json" = .ok .json := by
  have extension : Path.extension? "desk.json" = some "json" := by decide +kernel
  rw [ShowFormat.ofPath, extension]
  rfl

/-- The show with a node infinitely far away is saved, but not loaded again. -/
theorem lost_faraway :
    ∃ text later, faraway.save .epoch "desk.json" = .ok text ∧
      (⟨[], []⟩ : Folder).write "desk.json" text.toUTF8 = .ok later ∧
      load later "desk.json" = .error .notJson := by
  have small : ¬ShowFile.largestSize <
      ((ShowFile.ofShow faraway .epoch).toText .json).utf8ByteSize := by
    have few : (Json.pretty 0 (Stored.toJson (ShowFile.ofShow faraway .epoch))).length ≤ 10000 := by
      decide +kernel
    have size :=
      utf8ByteSize_ofList_le (Json.pretty 0 (Stored.toJson (ShowFile.ofShow faraway .epoch)))
    simp only [ShowFile.largestSize, ShowFile.toText, Stored.jsonText, Json.renderPretty]
    omega
  have lost : ShowFormat.json.reread? faraway = none := by
    have infinite : faraway.isFinite = false := by decide +kernel
    exact Option.isNone_iff_eq_none.1
      (Option.isSome_eq_false_iff.1 ((Retold.isSome_reread?_show faraway).trans infinite))
  refine ⟨_, _, save_eq ofPath_json faraway .epoch, write_json _, ?_⟩
  rw [load_eq ofPath_json (write_json _), if_neg small, lost]
  rfl

end Show

end LightingDesk
