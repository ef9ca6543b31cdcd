import LightingDesk.Playback.Event
import LightingDesk.Stored.Identifier
/-!
Faults and events of playbacks in documents.
-/

namespace LightingDesk

open Stored (written)

instance : Stored Fault where
  written
    | .emptyGraph => .bare "EmptyGraph"
    | .danglingEdge connection source target =>
        .variantRecord "DanglingEdge"
          [("connection", written connection), ("from", written source), ("to", written target)]
    | .noMatchingBranch node branch =>
        .variantRecord "NoMatchingBranch" [("node", written node), ("branch", written branch)]
    | .missingScene node scene =>
        .variantRecord "MissingScene" [("node", written node), ("scene", written scene)]
    | .emptyTracker node => .variantRecord "EmptyTrackerList" [("node", written node)]
    | .missingTrackerChild node child =>
        .variantRecord "MissingTrackerChild" [("node", written node), ("child", written child)]
    | .trackerCycle node child =>
        .variantRecord "TrackerCycle" [("node", written node), ("child", written child)]
  read? document := do
    match ← Source.variantName? document with
    | "EmptyGraph" => if Source.isBare document then some .emptyGraph else none
    | "DanglingEdge" =>
        let row ← Source.variantRecord? ["connection", "from", "to"] document
        some (.danglingEdge (← row.required "connection") (← row.required "from")
          (← row.required "to"))
    | "NoMatchingBranch" =>
        let row ← Source.variantRecord? ["node", "branch"] document
        some (.noMatchingBranch (← row.required "node") (← row.required "branch"))
    | "MissingScene" =>
        let row ← Source.variantRecord? ["node", "scene"] document
        some (.missingScene (← row.required "node") (← row.required "scene"))
    | "EmptyTrackerList" =>
        let row ← Source.variantRecord? ["node"] document
        some (.emptyTracker (← row.required "node"))
    | "MissingTrackerChild" =>
        let row ← Source.variantRecord? ["node", "child"] document
        some (.missingTrackerChild (← row.required "node") (← row.required "child"))
    | "TrackerCycle" =>
        let row ← Source.variantRecord? ["node", "child"] document
        some (.trackerCycle (← row.required "node") (← row.required "child"))
    | _ => none

instance : Stored StopReason where
  written
    | .completed => .bare "Completed"
    | .stoppedByUser => .bare "StoppedByUser"
    | .fault fault => .variant "Error" (written fault)
  read? document := do
    match ← Source.variantName? document with
    | "Completed" => if Source.isBare document then some .completed else none
    | "StoppedByUser" => if Source.isBare document then some .stoppedByUser else none
    | "Error" => some (.fault (← Stored.read? (← Source.variantValue? document)))
    | _ => none

instance : Stored Event where
  written
    | .nodeEntered player act node =>
        .variantRecord "NodeEntered"
          [("player", written player), ("act", written act), ("node", written node)]
    | .stopped player act reason =>
        .variantRecord "PlaybackStopped"
          [("player", written player), ("act", written act), ("reason", written reason)]
    | .warning player act fault =>
        .variantRecord "Warning"
          [("player", written player), ("act", written act), ("error", written fault)]
  read? document := do
    match ← Source.variantName? document with
    | "NodeEntered" =>
        let row ← Source.variantRecord? ["player", "act", "node"] document
        some (.nodeEntered (← row.required "player") (← row.required "act") (← row.required "node"))
    | "PlaybackStopped" =>
        let row ← Source.variantRecord? ["player", "act", "reason"] document
        some (.stopped (← row.required "player") (← row.required "act") (← row.required "reason"))
    | "Warning" =>
        let row ← Source.variantRecord? ["player", "act", "error"] document
        some (.warning (← row.required "player") (← row.required "act") (← row.required "error"))
    | _ => none

end LightingDesk
