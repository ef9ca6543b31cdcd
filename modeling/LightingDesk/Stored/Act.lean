import LightingDesk.Act
import LightingDesk.Stored.Condition
import LightingDesk.Stored.Tracker
/-!
Acts in documents: nodes with their payloads, connections, triggers and the state of a playback.
-/

namespace LightingDesk

open Stored (written)

instance : Stored Position where
  written position := .record "Position" [("x", written position.x), ("y", written position.y)]
  read? document := do
    let row ← Source.record? "Position" ["x", "y"] document
    some ⟨← row.required "x", ← row.required "y"⟩

/-- A set is written as the list of its ids; any list is read, whatever its order. -/
instance : Stored FixtureSet where
  written set := written set.ids
  read? document := (Stored.read? document).map FixtureSet.ofList

instance : Stored ScenePayload where
  written payload := .record "ScenePayload"
    [("scene", written payload.scene), ("muted_fixtures", written payload.mutedFixtures)]
  read? document := do
    let row ← Source.record? "ScenePayload" ["scene", "muted_fixtures"] document
    some ⟨← row.required "scene", ← row.defaulted "muted_fixtures" .empty⟩

instance : Stored WaitPayload where
  written payload := .record "WaitPayload" [("duration_ms", written payload.durationMs)]
  read? document := do
    let row ← Source.record? "WaitPayload" ["duration_ms"] document
    some ⟨← row.defaulted "duration_ms" WaitPayload.standard.durationMs⟩

def Curve.label : Curve → String
  | linear => "linear"
  | easeIn => "ease-in"
  | easeOut => "ease-out"
  | easeInOut => "ease-in-out"

instance : Stored Curve where
  written curve := .bare curve.label
  read? := bareOf? Curve.label [.linear, .easeIn, .easeOut, .easeInOut]

def TransitionShape.label : TransitionShape → String
  | fade => "fade"
  | crossfade => "crossfade"
  | cut => "cut"
  | wipe => "wipe"

instance : Stored TransitionShape where
  written shape := .bare shape.label
  read? := bareOf? TransitionShape.label [.fade, .crossfade, .cut, .wipe]

instance : Stored TransitionPayload where
  written payload := .record "TransitionPayload"
    [("duration_ms", written payload.durationMs), ("curve", written payload.curve),
      ("shape", written payload.shape)]
  read? document := do
    let row ← Source.record? "TransitionPayload" ["duration_ms", "curve", "shape"] document
    let standard := TransitionPayload.standard
    some {
      durationMs := ← row.defaulted "duration_ms" standard.durationMs
      curve := ← row.defaulted "curve" standard.curve
      shape := ← row.defaulted "shape" standard.shape }

instance : Stored ConditionPayload where
  written payload := .record "ConditionPayload" [("predicate", written payload.predicate)]
  read? document := do
    let row ← Source.record? "ConditionPayload" ["predicate"] document
    some ⟨← row.required "predicate"⟩

instance : Stored NodeKind where
  written
    | .scene payload => .variant "scene" (written payload)
    | .transition payload => .variant "transition" (written payload)
    | .wait payload => .variant "wait" (written payload)
    | .condition payload => .variant "condition" (written payload)
    | .tracker payload => .variant "tracker" (written payload)
  read? document := do
    let name ← Source.variantName? document
    let contents ← Source.variantValue? document
    match name with
    | "scene" => some (.scene (← Stored.read? contents))
    | "transition" => some (.transition (← Stored.read? contents))
    | "wait" => some (.wait (← Stored.read? contents))
    | "condition" => some (.condition (← Stored.read? contents))
    | "tracker" => some (.tracker (← Stored.read? contents))
    | _ => none

instance : Stored ActNode where
  written node := .record "ActNode"
    [("id", written node.id), ("name", written node.name), ("kind", written node.kind),
      ("position", written node.position)]
  read? document := do
    let row ← Source.record? "ActNode" ["id", "name", "kind", "position"] document
    some {
      id := ← row.required "id"
      name := ← row.required "name"
      kind := ← row.required "kind"
      position := ← row.defaulted "position" .origin }

def ConnectionKind.label : ConnectionKind → String
  | default => "default"
  | conditional => "conditional"
  | timeout => "timeout"

instance : Stored ConnectionKind where
  written kind := .bare kind.label
  read? := bareOf? ConnectionKind.label [.default, .conditional, .timeout]

instance : Stored Connection where
  written connection := .record "ActConnection"
    ([("id", written connection.id), ("from", written connection.source),
      ("to", written connection.target), ("kind", written connection.kind)] ++
      Written.ifPresent "guard" connection.guard ++
      Written.ifPresent "timeout_ms" connection.timeoutMs)
  read? document := do
    let row ← Source.record? "ActConnection" ["id", "from", "to", "kind", "guard", "timeout_ms"]
      document
    some {
      id := ← row.required "id"
      source := ← row.required "from"
      target := ← row.required "to"
      kind := ← row.defaulted "kind" .default
      guard := ← row.defaulted "guard" none
      timeoutMs := ← row.defaulted "timeout_ms" none }

instance : Stored OscTrigger where
  written trigger := .record "OscActTrigger"
    [("address", written trigger.address), ("enabled", written trigger.enabled)]
  read? document := do
    let row ← Source.record? "OscActTrigger" ["address", "enabled"] document
    some ⟨← row.required "address", ← row.required "enabled"⟩

instance : Stored MidiTrigger where
  written trigger := .record "MidiActTrigger"
    [("channel", written trigger.channel), ("note", written trigger.note),
      ("enabled", written trigger.enabled)]
  read? document := do
    let row ← Source.record? "MidiActTrigger" ["channel", "note", "enabled"] document
    some ⟨← row.required "channel", ← row.required "note", ← row.required "enabled"⟩

instance : Stored Triggers where
  written triggers := .record "ActTriggers"
    [("osc", written triggers.osc), ("midi", written triggers.midi)]
  read? document := do
    let row ← Source.record? "ActTriggers" ["osc", "midi"] document
    some ⟨← row.defaulted "osc" none, ← row.defaulted "midi" none⟩

instance : Stored PlaybackState where
  written state := .record "PlaybackState"
    [("is_playing", written state.isPlaying), ("current_node_id", written state.currentNode),
      ("progress", written state.progress)]
  read? document := do
    let row ← Source.record? "PlaybackState" ["is_playing", "current_node_id", "progress"] document
    some {
      isPlaying := ← row.required "is_playing"
      currentNode := ← row.optional "current_node_id"
      progress := ← row.required "progress" }

instance : Stored Act where
  written act := .record "Act"
    [("id", written act.id), ("name", written act.name), ("description", written act.description),
      ("nodes", written act.nodes), ("connections", written act.connections),
      ("start_node_id", written act.startNode), ("triggers", written act.triggers),
      ("playback", written act.playback), ("created_at", written act.createdAt),
      ("updated_at", written act.updatedAt)]
  read? document := do
    let row ← Source.record? "Act" ["id", "name", "description", "nodes", "connections",
      "start_node_id", "triggers", "playback", "created_at", "updated_at"] document
    some {
      id := ← row.required "id"
      name := ← row.required "name"
      description := ← row.defaulted "description" none
      nodes := ← row.required "nodes"
      connections := ← row.required "connections"
      startNode := ← row.defaulted "start_node_id" none
      triggers := ← row.defaulted "triggers" .none
      playback := ← row.defaulted "playback" .idle
      createdAt := ← row.required "created_at"
      updatedAt := ← row.required "updated_at" }

end LightingDesk
