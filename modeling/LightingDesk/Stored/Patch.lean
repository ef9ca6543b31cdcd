import LightingDesk.Dmx.Fixture
import LightingDesk.Document.Source
import LightingDesk.Scene
/-!
Scenes and fixtures in documents.
-/

namespace LightingDesk

open Stored (written)

instance : Stored Scene where
  written scene := .record "Scene"
    [("name", written scene.name), ("channel_values", written scene.levels)]
  read? document := do
    let row ← Source.record? "Scene" ["name", "channel_values"] document
    some ⟨← row.required "name", ← row.required "channel_values"⟩

instance : Stored SceneLibrary where
  written library := .record "SceneLibrary" [("scenes", written library.scenes)]
  read? document := do
    let row ← Source.record? "SceneLibrary" ["scenes"] document
    some ⟨← row.required "scenes"⟩

namespace ChannelType

/-- The name of a type in documents, one word. -/
def word : ChannelType → String
  | colorWheel => "ColorWheel"
  | channelType => channelType.label

def all : List ChannelType :=
  [dimmer, red, green, blue, amber, white, pan, tilt, colorWheel, gobo, shutter, speed, generic]

end ChannelType

instance : Stored ChannelType where
  written channelType := .bare channelType.word
  read? := bareOf? ChannelType.word ChannelType.all

instance : Stored FixtureChannel where
  written channel := .record "FixtureChannel"
    [("name", written channel.name), ("channel_type", written channel.channelType),
      ("default_value", written channel.defaultValue)]
  read? document := do
    let row ← Source.record? "FixtureChannel" ["name", "channel_type", "default_value"] document
    some {
      name := ← row.required "name"
      channelType := ← row.required "channel_type"
      defaultValue := ← row.defaulted "default_value" 0 }

instance : Stored FixtureProfile where
  written profile := .record "FixtureProfile"
    [("name", written profile.name), ("manufacturer", written profile.manufacturer),
      ("channels", written profile.channels)]
  read? document := do
    let row ← Source.record? "FixtureProfile" ["name", "manufacturer", "channels"] document
    some {
      name := ← row.required "name"
      manufacturer := ← row.required "manufacturer"
      channels := ← row.required "channels" }

instance : Stored Fixture where
  written fixture := .record "Fixture"
    [("id", written fixture.id), ("name", written fixture.name),
      ("profile", written fixture.profile), ("universe", written fixture.universeNumber),
      ("start_address", written fixture.startAddress)]
  read? document := do
    let row ← Source.record? "Fixture" ["id", "name", "profile", "universe", "start_address"]
      document
    some {
      id := ← row.required "id"
      name := ← row.required "name"
      profile := ← row.required "profile"
      universeNumber := ← row.required "universe"
      startAddress := ← row.required "start_address" }

end LightingDesk
