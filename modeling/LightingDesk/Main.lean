import LightingDesk.CommandLine
import Std.Async.UDP
/-!
The command line as a program: it looks at the files that its arguments name, does what they ask
for, and plays acts against the clock. Frames leave as datagrams.
-/

namespace LightingDesk.CommandLine

open ArtNet (SocketAddress Wire)
open Std.Async.UDP (Socket)

/-! ### Files -/

/-- Those of the given paths that can be read, with their bytes. -/
def readable (paths : List String) : IO (List (String × ByteArray)) :=
  paths.filterMapM fun (path : String) => do
    try return some (path, ← IO.FS.readBinFile path) catch _ => return none

/-- The folder as far as it matters for an invocation: the files that it names, and those that are
in the way of the log directory. -/
def survey (invocation : Invocation) : IO Folder := do
  let files ← readable (invocation.settings.toList ++ [invocation.command.path])
  match settingsOf (.ofFiles files) invocation with
  | .error _ => return .ofFiles files
  | .ok settings =>
      let onTheWay := (settings.log.neededDirectory?.map Path.ancestors).getD []
      return .ofFiles (files ++ (← readable onTheWay))

/-- Makes the log directory if one is needed, and tells whether it is there. -/
def makeLogDirectory (folder : Folder) (invocation : Invocation) : IO Bool := do
  let settings? := (settingsOf folder invocation).toOption
  match settings?.bind fun settings => settings.log.neededDirectory? with
  | none | some "" => return true
  | some path => try IO.FS.createDirAll path; return true catch _ => return false

/-! ### Datagrams -/

/-- A socket and where its datagrams go. -/
structure Line where
  socket : Socket
  target : Std.Net.SocketAddress

def networkAddress : SocketAddress → Std.Net.SocketAddress
  | .v4 octets port =>
      .v4 ⟨⟨.ofFn fun place => (octets.getD place 0).toUInt8⟩, port.toUInt16⟩
  | .v6 groups _ port =>
      .v6 ⟨⟨.ofFn fun place => (groups.getD place 0).toUInt16⟩, port.toUInt16⟩

def Line.start (target : SocketAddress) : IO Line := do
  let socket ← Socket.mk
  socket.bind (networkAddress (.v4 [0, 0, 0, 0] 0))
  socket.setBroadcast true
  return ⟨socket, networkAddress target⟩

/-- Sends what a runner has put on its wire. A packet that the network does not take is lost. -/
def transmit (line : Option Line) (runner : Runner Wire) : IO Unit := do
  if let (some line, some sender) := (line, runner.sender) then
    for packet in sender.link.packets do
      try (line.socket.send ⟨packet.toArray⟩ (some line.target)).block catch _ => pure ()

def withEmptyWire (runner : Runner Wire) : Runner Wire :=
  { runner with sender := runner.sender.map fun sender => { sender with link := ⟨#[]⟩ } }

/-! ### Playing -/

/-- As many ticks as the work may need at once. -/
def wakes : Nat := 1000000

/-- The longest pause between two looks at the clock. -/
def longestPause : Nat := 1000

/-- Lets the work go on until it ends or its time is over. -/
partial def attend (line : Option Line) (start : Nat) (limit : Option Nat)
    (running : Running Wire) : IO Unit := do
  let now := (← IO.monoNanosNow) - start
  match running.sleep wakes now with
  | none => throw (IO.userError Failure.clock.message)
  | some (.ended runner) => transmit line runner
  | some (.active since runner) =>
      transmit line runner
      let running := Running.active since (withEmptyWire runner)
      if limit.any fun limit => limit ≤ now then
        if let some ended := running.close wakes now then transmit line ended.runner
      else
        let due := ((runner.wake? since).toList ++ limit.toList).map fun moment =>
          (moment - now) / Span.ofMilliseconds 1 + 1
        IO.sleep (due.foldl min longestPause).toUInt32
        attend line start limit running

def Playback.play (playback : Playback) : IO Unit := do
  let line ← playback.target.mapM Line.start
  attend line (← IO.monoNanosNow) playback.limit (.active 0 playback.runner)

/-! ### Outcomes -/

def report (outcome : Outcome) : IO UInt32 := do
  match outcome with
  | .printed lines =>
      lines.forM IO.println
      return 0
  | .failed lines failure =>
      lines.forM IO.println
      IO.eprintln s!"Error: {failure.message}"
      return 1
  | .playing playback =>
      try playback.play; return 0
      catch error => IO.eprintln s!"Error: {toString error}"; return 1
  | .wrongUsage =>
      generalHelp.forM IO.eprintln
      return 2

/-- The program starts with its clock. Without a seed of its own, a session gets one from the system. -/
def environmentOf (folder : Folder) : IO Environment := do
  let noise ← IO.getRandomBytes 8
  let seed := noise.toList.foldl (fun value byte => value * 256 + byte.toUInt64) 0
  return ⟨folder, .still 0, .splitmix seed⟩

def execute (arguments : List String) : IO UInt32 := do
  match Request.ofArguments arguments with
  | .invoke invocation =>
      let folder ← survey invocation
      match invoke (← environmentOf folder) invocation with
      | .failed lines .noLogDirectory => report (.failed lines .noLogDirectory)
      | outcome =>
          if ← makeLogDirectory folder invocation then report outcome
          else report (.failed [] .noLogDirectory)
  | _ => report (run (← environmentOf (.ofFiles [])) arguments)

end LightingDesk.CommandLine

def main (arguments : List String) : IO UInt32 := LightingDesk.CommandLine.execute arguments
