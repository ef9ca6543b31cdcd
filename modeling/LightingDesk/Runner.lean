import LightingDesk.ArtNet.Sender
import LightingDesk.Clock
import LightingDesk.Playback.Session
import LightingDesk.Show
import LightingDesk.Trigger
/-!
A runner plays the acts of a show on its clock. It starts and stops acts by name or on messages,
lets the session catch up with the clock, and sends the universe out when levels have changed. A
frame that is refused because it comes too soon is sent later. The clock goes on meanwhile: it is read
anew whenever the session catches up with it, and whenever levels are sent.

Operations have no answer (`none`) when an instant would lie past the last one of the clock.
-/

namespace LightingDesk

inductive RunnerError where
  | actNotFound (key : String)
  | session (error : SessionError)
  | closed
deriving DecidableEq, Repr

def RunnerError.message : RunnerError → String
  | actNotFound key => s!"Act not found: {key}"
  | session error => error.message
  | closed => "Show runner has shut down"

inductive RunnerCommand where
  | start (key : String)
  | stop (key : String)
  | stopAll
  | midi (message : MidiMessage)
  | osc (message : OscMessage)
  | shutdown

structure Runner (κ : Type) where
  session : Session Universe
  acts : List Act
  sender : Option (ArtNet.Sender κ)
  /-- Whether the runner ends when no act is playing. -/
  exitWhenIdle : Bool
  /-- Whether levels have changed since the last frame went out. -/
  unsentFrame : Bool

namespace Runner

variable {κ : Type}

def create (session : Session Universe) (acts : List Act) (sender : Option (ArtNet.Sender κ)) :
    Runner κ :=
  { session, acts, sender, exitWhenIdle := false, unsentFrame := false }

def find? (runner : Runner κ) (key : String) : Option Act := findAct? runner.acts key

/-- Lets the session catch up with the clock. -/
def syncClock (runner : Runner κ) (now : Nat) : Option (Runner κ) :=
  (runner.session.advanceTo now).map fun session => { runner with session }

/-- Notes whether levels have changed. -/
def collect (runner : Runner κ) : Runner κ :=
  let (dirty, output) := runner.session.stage.output.takeDirty
  { runner with
    session := runner.session.mapOutput fun _ => output
    unsentFrame := runner.unsentFrame || dirty }

/-- Sends the levels if they have changed. Without a sender, and if sending fails, they count as
sent. -/
def flush [ArtNet.Link κ] (runner : Runner κ) (now : Nat) : Runner κ :=
  let runner := runner.collect
  if !runner.unsentFrame then runner
  else
    match runner.sender with
    | none => { runner with unsentFrame := false }
    | some sender =>
        match sender.send now runner.session.stage.output.levels with
        | (.ok sent, sender) => { runner with sender := some sender, unsentFrame := !sent }
        | (.error _, sender) => { runner with sender := some sender, unsentFrame := false }

variable [ArtNet.Link κ]

/-- Starts the act of a key, with the player it had before if it had one. The clock is read twice at
most, for the session and for the levels. -/
def startAct (runner : Runner κ) (clock : Clock) (key : String) :
    Option (Except RunnerError PlayerId × Runner κ) := do
  let runner ← runner.syncClock clock.now
  match runner.find? key with
  | none => some (.error (.actNotFound key), runner)
  | some act =>
      let (result, session) ← match runner.session.playerFor? act.id with
        | some player =>
            (runner.session.start player).map fun (result, session) =>
              (result.map fun _ => player, session)
        | none => runner.session.play act
      let runner := { runner with session }
      match result with
      | .error error => some (.error (.session error), runner)
      | .ok player => some (.ok player, runner.flush (clock.after 1).now)

def stopAct (runner : Runner κ) (key : String) : Except RunnerError Unit × Runner κ :=
  match runner.find? key with
  | none => (.error (.actNotFound key), runner)
  | some act =>
      match runner.session.playerFor? act.id with
      | none => (.ok (), runner)
      | some player =>
          let (result, session) := runner.session.stop player
          (result.mapError .session, { runner with session })

/-- Starts acts one after the other, each as late as the clock shows then, and tells which of them were
started. -/
def startAll (runner : Runner κ) (clock : Clock) : List ActId → Option (List ActId × Runner κ)
  | [] => some ([], runner)
  | id :: rest => do
      let (result, runner) ← runner.startAct clock id.text
      let (started, runner) ← runner.startAll (clock.after 2) rest
      match result with
      | .ok _ => some (id :: started, runner)
      | .error _ => some (started, runner)

def matching (runner : Runner κ) (fires : Triggers → Bool) : List ActId :=
  (runner.acts.filter fun act => fires act.triggers).map Act.id

/-- Sets the signal of a control change, and starts the acts that the message triggers. -/
def handleMidi (runner : Runner κ) (clock : Clock) (message : MidiMessage) :
    Option (List ActId × Runner κ) :=
  let runner := match message with
    | .controlChange channel controller value =>
        { runner with
          session := runner.session.mapSignals fun board =>
            board.setController channel controller value }
    | _ => runner
  runner.startAll clock (runner.matching fun triggers => triggers.midiFires message)

/-- Sets the signal of the address, and starts the acts that the message triggers. -/
def handleOsc (runner : Runner κ) (clock : Clock) (message : OscMessage) :
    Option (List ActId × Runner κ) :=
  let runner := match message.value with
    | some value =>
        { runner with
          session := runner.session.mapSignals fun board =>
            board.setAddress message.address value.toFloat }
    | none => runner
  runner.startAll clock (runner.matching fun triggers => triggers.oscFires message)

/-- Carries out a command; one that fails has no further effect. -/
def apply (runner : Runner κ) (clock : Clock) : RunnerCommand → Option (Runner κ)
  | .start key => (runner.startAct clock key).map Prod.snd
  | .stop key => some (runner.stopAct key).2
  | .stopAll => some { runner with session := runner.session.stopAll }
  | .midi message => (runner.handleMidi clock message).map Prod.snd
  | .osc message => (runner.handleOsc clock message).map Prod.snd
  | .shutdown => some runner

/-- Catches up with the clock and sends what has changed. -/
def tick (runner : Runner κ) (clock : Clock) : Option (Runner κ) :=
  (runner.syncClock clock.now).map fun runner => runner.flush (clock.after 1).now

/-- When the runner has to be woken: at the next deadline, and an interval from now if a frame was
refused. -/
def wake? (runner : Runner κ) (now : Nat) : Option Nat :=
  let retry := match runner.sender with
    | some sender => if runner.unsentFrame then some (now + sender.interval) else none
    | none => none
  match runner.session.nextDeadline?, retry with
  | some deadline, some retry => some (min deadline retry)
  | some wake, none | none, some wake => some wake
  | none, none => none

/-- Stops all acts and sends the last levels, whatever the interval. -/
def finish (runner : Runner κ) (now : Nat) : Runner κ :=
  let stopped := collect { runner with session := runner.session.stopAll }
  let sender := stopped.sender.map fun sender => sender.setRate (UInt32.size - 1)
  flush { stopped with sender } now

end Runner

/-- The work of a runner: it goes on until it is shut down or, if it is told so, until no act is
playing. -/
inductive Running (κ : Type) where
  /-- At work, and asleep since an instant. -/
  | active (since : Nat) (runner : Runner κ)
  | ended (runner : Runner κ)

namespace Running

variable {κ : Type}

def runner : Running κ → Runner κ
  | active _ runner | ended runner => runner

variable [ArtNet.Link κ]

/-! The work on a clock that only goes on while the runner is asleep: it wakes up as soon as it has
to, and what it does takes no time. -/

/-- Lets time pass until nothing is due up to `last`; ends after at most `wakes` ticks. -/
def pass (last : Nat) : Nat → Nat → Runner κ → Option (Running κ)
  | 0, since, runner => some (.active since runner)
  | wakes + 1, since, runner =>
      if runner.exitWhenIdle && !runner.session.isAnyPlaying then
        some (.ended (runner.finish since))
      else
        match runner.wake? since with
        | none => some (.active since runner)
        | some wake =>
            if last < wake then some (.active since runner)
            else
              let now := max since wake
              (runner.tick (.still now)).bind (pass last wakes now)

/-- Lets time pass up to an instant. -/
def sleep (running : Running κ) (wakes last : Nat) : Option (Running κ) :=
  match running with
  | ended runner => some (.ended runner)
  | active since runner => pass last wakes since runner

/-- Takes a command and ticks. What is due is done first; the command is lost if the work ends with
that. A runner that has ended takes no commands. -/
def handle (running : Running κ) (wakes now : Nat) (command : RunnerCommand) :
    Option (Except RunnerError Unit × Running κ) :=
  match running with
  | ended runner => some (.error .closed, .ended runner)
  | active since runner => do
      let running ← match ← pass now wakes since runner, command with
        | .ended runner, _ => some (.ended runner)
        | .active _ runner, .shutdown => some (.ended (runner.finish now))
        | .active _ runner, command => do
            pass now wakes now (← (← runner.apply (.still now) command).tick (.still now))
      some (.ok (), running)

/-- Does what is due and ends the work, if it has not ended yet. -/
def close (running : Running κ) (wakes now : Nat) : Option (Running κ) :=
  (running.sleep wakes now).map fun
    | ended runner => .ended runner
    | active _ runner => .ended (runner.finish now)

end Running

end LightingDesk
