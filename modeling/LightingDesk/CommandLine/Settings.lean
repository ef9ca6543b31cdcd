import LightingDesk.Folder
import LightingDesk.Stored.Settings
import LightingDesk.Toml.Parse
import LightingDesk.Toml.Source
/-!
The settings file of the command line, in TOML. Every section and every field may be left out.
-/

namespace LightingDesk

structure OutputSettings where
  /-- Whether frames are sent at all. -/
  enabled : Bool
  target : String
  /-- Takes the place of the universe of the show. -/
  universeNumber : Option UInt16
  refreshRate : UInt32
deriving DecidableEq, Repr

def OutputSettings.standard : OutputSettings := ⟨false, "255.255.255.255:6454", none, 30⟩

structure AppSettings where
  engine : EngineSettings
  log : LogSettings
  output : OutputSettings
deriving DecidableEq, Repr

def AppSettings.standard : AppSettings := ⟨.standard, .standard, .standard⟩

open Stored (written)

instance : Stored OutputSettings where
  written settings := .record "OutputConfig"
    [("enabled", written settings.enabled), ("artnet_target", written settings.target),
      ("universe", written settings.universeNumber), ("refresh_hz", written settings.refreshRate)]
  read? document := do
    let row ← Source.record? "OutputConfig" ["enabled", "artnet_target", "universe", "refresh_hz"]
      document
    let standard := OutputSettings.standard
    some {
      enabled := ← row.defaulted "enabled" standard.enabled
      target := ← row.defaulted "artnet_target" standard.target
      universeNumber := ← row.defaulted "universe" standard.universeNumber
      refreshRate := ← row.defaulted "refresh_hz" standard.refreshRate }

instance : Stored AppSettings where
  written settings := .record "AppConfig"
    [("engine", written settings.engine), ("logging", written settings.log),
      ("output", written settings.output)]
  read? document := do
    let row ← Source.record? "AppConfig" ["engine", "logging", "output"] document
    let standard := AppSettings.standard
    some {
      engine := ← row.defaulted "engine" standard.engine
      log := ← row.defaulted "logging" standard.log
      output := ← row.defaulted "output" standard.output }

inductive SettingsError where
  | unreadable (path : String)
  | malformed (path : String)
deriving DecidableEq, Repr

def AppSettings.ofText? (text : String) : Option AppSettings :=
  (Toml.parse? text).bind fun document => Stored.read? document

def AppSettings.load (folder : Folder) (path : String) : Except SettingsError AppSettings :=
  match folder.text path with
  | .error _ => .error (.unreadable path)
  | .ok text => (AppSettings.ofText? text).elim (.error (.malformed path)) .ok

end LightingDesk
