import LightingDesk.Document.Source
import LightingDesk.Identifier
import LightingDesk.Timestamp
/-!
Ids and instants in documents: both are texts, and players are numbers of 64 bits.
-/

namespace LightingDesk

instance : Stored ActId where
  written id := .text id.text
  read? document := (Source.text? document).map ActId.mk

instance : Stored NodeId where
  written id := .text id.text
  read? document := (Source.text? document).map NodeId.mk

instance : Stored ConnectionId where
  written id := .text id.text
  read? document := (Source.text? document).map ConnectionId.mk

instance : Stored PlayerId where
  written id := .wrapped "PlayerId" (.integer id.number)
  read? document :=
    ((Source.wrapped? "PlayerId" document).bind Source.natural?).bind fun number =>
      (below? UInt64.size number).map PlayerId.mk

instance : Stored Timestamp where
  written stamp := .text stamp.render
  read? document := (Source.text? document).bind Timestamp.parse?

end LightingDesk
