import LightingDesk.Document.Text
import LightingDesk.Proofs.Document.Faithful
import LightingDesk.Proofs.Ron.Print
/-!
Values kept as RON texts. A value is read back from its text if each of its floating-point numbers is
read back from its own.
-/

namespace LightingDesk.Stored

theorem parse?_renderPretty {value : Written} {levels : Nat} (fits : value.Fits levels)
    (shallow : levels ≤ Ron.depthLimit) :
    Ron.Document.parse? (Ron.renderPretty value) = some (value.ronDocument Ron.depthLimit) := by
  have parsed : Ron.parse? (Ron.renderPretty value) = some (.none, value.toRon) :=
    Ron.parse?_of_reads (Ron.reads_pretty value 0 levels fits) shallow
  rw [Ron.Document.parse?, parsed]
  rfl

theorem ofRon?_ronText_single {x : Float32} :
    ofRon? (ronText x) = some x ↔ Written.IsRonSingle x := by
  rw [ofRon?, ronText, parse?_renderPretty (Faithful.fits x) (by decide)]
  exact Iff.rfl

theorem ofRon?_ronText_double {x : Float} :
    ofRon? (ronText x) = some x ↔ Written.IsRonDouble x := by
  rw [ofRon?, ronText, parse?_renderPretty (Faithful.fits x) (by decide)]
  exact Iff.rfl

theorem ofRon?_ronText {α : Type} [Stored α] [Faithful α] (value : α)
    (shallow : Faithful.levels α ≤ Ron.depthLimit)
    (kept : (written value).AllFloats (fun x => ofRon? (ronText x) = some x)
      fun x => ofRon? (ronText x) = some x) :
    ofRon? (ronText value) = some value := by
  rw [ofRon?, ronText, parse?_renderPretty (Faithful.fits value) shallow]
  exact Faithful.reads (Written.appearsAs_ronDocument (written value) _ Ron.depthLimit
    (Faithful.fits value)
    (kept.imp (fun _ => ofRon?_ronText_single.1) fun _ => ofRon?_ronText_double.1))

end LightingDesk.Stored
