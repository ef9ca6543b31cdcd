import LightingDesk.Document.Source
import LightingDesk.Trigger
/-!
Controller messages in documents.
-/

namespace LightingDesk

open Stored (written)

instance : Stored MidiMessage where
  written
    | .noteOn channel note velocity =>
        .variantRecord "NoteOn"
          [("channel", written channel), ("note", written note), ("velocity", written velocity)]
    | .noteOff channel note =>
        .variantRecord "NoteOff" [("channel", written channel), ("note", written note)]
    | .controlChange channel controller value =>
        .variantRecord "ControlChange"
          [("channel", written channel), ("controller", written controller),
            ("value", written value)]
  read? document := do
    match ← Source.variantName? document with
    | "NoteOn" =>
        let row ← Source.variantRecord? ["channel", "note", "velocity"] document
        some (.noteOn (← row.required "channel") (← row.required "note")
          (← row.required "velocity"))
    | "NoteOff" =>
        let row ← Source.variantRecord? ["channel", "note"] document
        some (.noteOff (← row.required "channel") (← row.required "note"))
    | "ControlChange" =>
        let row ← Source.variantRecord? ["channel", "controller", "value"] document
        some (.controlChange (← row.required "channel") (← row.required "controller")
          (← row.required "value"))
    | _ => none

instance : Stored OscMessage where
  written message := .record "OscMessage"
    [("address", written message.address), ("value", written message.value)]
  read? document := do
    let row ← Source.record? "OscMessage" ["address", "value"] document
    some ⟨← row.required "address", ← row.optional "value"⟩

end LightingDesk
