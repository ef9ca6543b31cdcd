import LightingDesk.Show
import LightingDesk.Stored.Act
import LightingDesk.Stored.Patch
/-!
Shows in documents.
-/

namespace LightingDesk

open Stored (written)

instance : Stored Show where
  written content := .record "Show"
    [("name", written content.name), ("acts", written content.acts),
      ("scenes", written content.scenes), ("fixtures", written content.fixtures),
      ("universe", written content.universeNumber)]
  read? document := do
    let row ← Source.record? "Show" ["name", "acts", "scenes", "fixtures", "universe"] document
    some {
      name := ← row.required "name"
      acts := ← row.defaulted "acts" []
      scenes := ← row.defaulted "scenes" .empty
      fixtures := ← row.defaulted "fixtures" []
      universeNumber := ← row.defaulted "universe" 0 }

end LightingDesk
