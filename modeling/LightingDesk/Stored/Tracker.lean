import LightingDesk.Stored.Identifier
import LightingDesk.Tracker
/-!
Trackers in documents.
-/

namespace LightingDesk

open Stored (written)

def TrackerMode.label : TrackerMode → String
  | bounce => "bounce"
  | pingPong => "pingpong"
  | random => "random"
  | once => "once"

instance : Stored TrackerMode where
  written mode := .bare mode.label
  read? := bareOf? TrackerMode.label [.bounce, .pingPong, .random, .once]

def Direction.label : Direction → String
  | forward => "forward"
  | backward => "backward"

instance : Stored Direction where
  written direction := .bare direction.label
  read? := bareOf? Direction.label [.forward, .backward]

instance : Stored TrackerStart where
  written start := .record "TrackerPosition"
    [("index", written start.index), ("direction", written start.direction)]
  read? document := do
    let row ← Source.record? "TrackerPosition" ["index", "direction"] document
    some ⟨← row.required "index", ← row.required "direction"⟩

instance : Stored TrackerPayload where
  written payload := .record "TrackerPayload"
    [("children", written payload.children), ("mode", written payload.mode),
      ("step_delay_ms", written payload.stepDelayMs), ("initial", written payload.initial)]
  read? document := do
    let row ← Source.record? "TrackerPayload" ["children", "mode", "step_delay_ms", "initial"]
      document
    let standard := TrackerPayload.ofChildren []
    some {
      children := ← row.required "children"
      mode := ← row.defaulted "mode" standard.mode
      stepDelayMs := ← row.defaulted "step_delay_ms" standard.stepDelayMs
      initial := ← row.defaulted "initial" standard.initial }

end LightingDesk
