import LightingDesk.Document.Source
import LightingDesk.Log.Settings
import LightingDesk.Settings
/-!
Settings in documents. Every field may be left out.
-/

namespace LightingDesk

open Stored (written)

instance : Stored EngineSettings where
  written settings := .record "EngineConfig"
    [("max_sync_steps", written settings.maxSyncSteps),
      ("random_seed", written settings.randomSeed),
      ("event_history", written settings.eventHistory)]
  read? document := do
    let row ← Source.record? "EngineConfig" ["max_sync_steps", "random_seed", "event_history"]
      document
    let standard := EngineSettings.standard
    some {
      maxSyncSteps := ← row.defaulted "max_sync_steps" standard.maxSyncSteps
      randomSeed := ← row.defaulted "random_seed" standard.randomSeed
      eventHistory := ← row.defaulted "event_history" standard.eventHistory }

instance : Stored LogSettings where
  written settings := .record "LogConfig"
    [("level", written settings.level), ("console_output", written settings.consoleOutput),
      ("file_output", written settings.fileOutput), ("log_directory", written settings.directory),
      ("max_log_files", written settings.maxFiles)]
  read? document := do
    let row ← Source.record? "LogConfig"
      ["level", "console_output", "file_output", "log_directory", "max_log_files"] document
    let standard := LogSettings.standard
    some {
      level := ← row.defaulted "level" standard.level
      consoleOutput := ← row.defaulted "console_output" standard.consoleOutput
      fileOutput := ← row.defaulted "file_output" standard.fileOutput
      directory := ← row.defaulted "log_directory" standard.directory
      maxFiles := ← row.defaulted "max_log_files" standard.maxFiles }

end LightingDesk
