import LightingDesk.CommandLine.Report
import LightingDesk.CommandLine.Settings
import LightingDesk.Runner
import LightingDesk.Show.File
/-!
What the command line does with its arguments and the files that they name: it prints, it fails with
a message, or it has an act to play.
-/

namespace LightingDesk.CommandLine

inductive Failure where
  | settings (error : SettingsError)
  | noLogDirectory
  | load (path : String) (error : ShowError)
  | reviewErrors (count : Nat) (content : String)
  | duration (seconds : Float)
  | noSuchAct (content act : String)
  | patch (error : PatchError)
  | target (error : ArtNet.TargetError)
  | runner (error : RunnerError)
  /-- A deadline would lie past the last instant of the clock. -/
  | clock

def quoted (path : String) : String := String.ofList (Text.quote false path)

def Failure.message : Failure → String
  | settings (.unreadable path) => s!"Failed to read config file: {quoted path}"
  | settings (.malformed path) => s!"Failed to parse config file: {quoted path}"
  | noLogDirectory => "Failed to create log directory"
  | load path _ => s!"Failed to load show: {quoted path}"
  | reviewErrors count name => s!"{count} act graph error(s) in show '{name}'"
  | duration seconds =>
      "invalid duration: " ++ String.ofList ((Decimal.Parts.ofFloat seconds).plain false) ++
        " seconds"
  | noSuchAct name act => s!"show '{name}' has no act '{act}'"
  | patch error => s!"Invalid fixture patch: {error.message}"
  | target error => error.message
  | runner error => error.message
  | clock => "overflow when adding durations"

/-- An act that has been started: the runner, where its frames go, and how long it plays. -/
structure Playback where
  runner : Runner ArtNet.Wire
  target : Option ArtNet.SocketAddress
  limit : Option Nat

inductive Outcome where
  | printed (lines : List String)
  /-- Some lines were printed before it failed. -/
  | failed (lines : List String) (failure : Failure)
  | playing (playback : Playback)
  | wrongUsage

/-- A number of seconds as nanoseconds, rounded to the nearest; half a nanosecond goes to the even
neighbour. It must not be negative and must fit into 64 bits of seconds. -/
def duration? (seconds : Float) : Option Nat :=
  match Decimal.Parts.ofFloat seconds with
  | .notANumber | .infinite _ => none
  | .zero _ => some 0
  | .finite true _ => none
  | .finite false number =>
      let exact := number.significand * Span.perSecond
      let span :=
        if 0 ≤ number.exponent then exact * Nat.pow 2 number.exponent.toNat
        else
          let unit := Nat.pow 2 number.exponent.natAbs
          let below := exact / unit
          let rest := exact % unit
          if unit < 2 * rest ∨ (unit = 2 * rest ∧ below % 2 = 1) then below + 1 else below
      if span ≤ Span.longest then some span else none

def loadShow (folder : Folder) (path : String) : Except Failure Show :=
  (Show.load folder path).mapError (.load path)

/-- Starts an act, with the universe of the settings if they name one. -/
def play (clock : Clock) (seeding : Seeding) (settings : AppSettings) (content : Show) (act : String)
    (limit : Option Nat) : Except Failure Playback := do
  let content := { content with
    universeNumber := settings.output.universeNumber.getD content.universeNumber }
  if (content.find? act).isNone then .error (.noSuchAct content.name act)
  let dmx ← content.universe?.mapError .patch
  let target ←
    if settings.output.enabled then
      ((ArtNet.target settings.output.target).mapError .target).map some
    else .ok none
  let sender := target.map fun _ =>
    (ArtNet.Sender.create (ArtNet.Wire.mk #[]) content.universeNumber).setRate
      settings.output.refreshRate.toNat
  let session := Session.create dmx content.scenes settings.engine seeding
  match (Runner.create session content.acts sender).startAct clock act with
  | none => .error .clock
  | some (.error error, _) => .error (.runner error)
  | some (.ok _, runner) => .ok ⟨{ runner with exitWhenIdle := limit.isNone }, target, limit⟩

/-- What the program finds where it runs. Its clock shows how long it has been running. -/
structure Environment where
  folder : Folder
  clock : Clock
  seeding : Seeding

def perform (environment : Environment) (settings : AppSettings) (command : Command) : Outcome :=
  match command with
  | .inspect path =>
      match loadShow environment.folder path with
      | .error failure => .failed [] failure
      | .ok content => .printed (showLines content)
  | .validate path =>
      match loadShow environment.folder path with
      | .error failure => .failed [] failure
      | .ok content =>
          let lines := content.acts.flatMap reviewLines
          let count := errorCount content
          if count = 0 then .printed lines else .failed lines (.reviewErrors count content.name)
  | .play path act seconds =>
      match
        (do
          let limit ← match seconds with
            | none => .ok none
            | some seconds => (duration? seconds).elim (.error (.duration seconds)) (.ok ∘ some)
          play environment.clock environment.seeding settings
            (← loadShow environment.folder path) act limit : Except Failure Playback) with
      | .error failure => .failed [] failure
      | .ok playback => .playing playback

def settingsOf (folder : Folder) (invocation : Invocation) : Except SettingsError AppSettings :=
  match invocation.settings with
  | some path => AppSettings.load folder path
  | none => .ok .standard

/-- The log directory is made before anything else is done. -/
def invoke (environment : Environment) (invocation : Invocation) : Outcome :=
  let folder := environment.folder
  match settingsOf folder invocation with
  | .error error => .failed [] (.settings error)
  | .ok settings =>
      match settings.log.neededDirectory?.elim (some folder) folder.makeDirectory? with
      | none => .failed [] .noLogDirectory
      | some folder => perform { environment with folder } settings invocation.command

def run (environment : Environment) (arguments : List String) : Outcome :=
  match Request.ofArguments arguments with
  | .invoke invocation => invoke environment invocation
  | .help topic => .printed (help topic)
  | .version => .printed [versionText]
  | .wrong => .wrongUsage

end LightingDesk.CommandLine
