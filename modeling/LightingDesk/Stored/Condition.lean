import LightingDesk.Condition
import LightingDesk.Document.Source
/-!
Signals and predicates in documents.
-/

namespace LightingDesk

open Stored (written)

instance : Stored Signal where
  written
    | .time => .bare "time"
    | .midi channel controller =>
        .variantRecord "midi" [("channel", written channel), ("controller", written controller)]
    | .osc address => .variantRecord "osc" [("address", written address)]
    | .dmx channel => .variantRecord "dmx" [("channel", written channel)]
  read? document := do
    match ← Source.variantName? document with
    | "time" => if Source.isBare document then some .time else none
    | "midi" =>
        let row ← Source.variantRecord? ["channel", "controller"] document
        some (.midi (← row.required "channel") (← row.required "controller"))
    | "osc" =>
        let row ← Source.variantRecord? ["address"] document
        some (.osc (← row.required "address"))
    | "dmx" =>
        let row ← Source.variantRecord? ["channel"] document
        some (.dmx (← row.required "channel"))
    | _ => none

def Comparison.label : Comparison → String
  | equals => "equals"
  | greater => "greater"
  | less => "less"
  | between => "between"

instance : Stored Comparison where
  written operator := .bare operator.label
  read? := bareOf? Comparison.label [.equals, .greater, .less, .between]

instance : Stored Predicate where
  written predicate := .record "ConditionPredicate"
    ([("source", written predicate.source), ("operator", written predicate.operator),
      ("value", written predicate.value)] ++ Written.ifPresent "upper" predicate.upper)
  read? document := do
    let row ← Source.record? "ConditionPredicate" ["source", "operator", "value", "upper"] document
    some {
      source := ← row.required "source"
      operator := ← row.defaulted "operator" .equals
      value := ← row.required "value"
      upper := ← row.defaulted "upper" none }

end LightingDesk
