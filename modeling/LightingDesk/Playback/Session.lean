import LightingDesk.Playback.Player
/-!
A session: the players that share one stage, and the clock that drives them. Fired timers are
routed to their players. Operations have no answer (`none`) when an instant would lie past the last
one of the clock.
-/

namespace LightingDesk

inductive SessionError where
  | unknownPlayer (player : PlayerId)
  | act (fault : Fault)
deriving DecidableEq, Repr

def SessionError.message : SessionError → String
  | unknownPlayer player => s!"unknown player: {player.label}"
  | act fault => fault.message

/-- Players stand in the order of their ids. -/
structure Session (ω : Type) where
  settings : EngineSettings
  seeding : Seeding
  stage : Stage TimerQueue ω
  players : List Player
  nextPlayer : Nat

namespace Session

variable {ω : Type}

def create (output : ω) (scenes : SceneLibrary) (settings : EngineSettings) (seeding : Seeding) :
    Session ω :=
  { settings
    seeding
    stage := .ofParts .empty output scenes (.ofCapacity settings.eventHistory.toNat)
    players := []
    nextPlayer := 1 }

def now (session : Session ω) : Nat := session.stage.clock.now

def nextDeadline? (session : Session ω) : Option Nat := session.stage.clock.nextDeadline?

def pendingTimers (session : Session ω) : Nat := session.stage.clock.pending.length

def player? (session : Session ω) (id : PlayerId) : Option Player :=
  session.players.find? fun player => player.id == id

/-- The first player of an act. -/
def playerFor? (session : Session ω) (act : ActId) : Option PlayerId :=
  (session.players.find? fun player => player.act.id == act).map Player.id

def isAnyPlaying (session : Session ω) : Bool := session.players.any Player.playing

def snapshot? (session : Session ω) (id : PlayerId) : Option PlaybackState :=
  (session.player? id).map fun player => player.snapshot session.now

def history (session : Session ω) : List Event := session.stage.bus.history

/-- Everything players have emitted, oldest first. -/
def events (session : Session ω) : List Event :=
  session.stage.trace.toList.filterMap TraceEntry.event?

/-- Everything players have written, oldest first. -/
def writes (session : Session ω) : List (UInt16 × UInt8) :=
  session.stage.trace.toList.filterMap TraceEntry.write?

/-! ### What the host may change -/

@[inline] def mapStage (session : Session ω) (change : Stage TimerQueue ω → Stage TimerQueue ω) :
    Session ω :=
  { session with stage := change session.stage }

def mapSignals (session : Session ω) (change : SignalBoard → SignalBoard) : Session ω :=
  session.mapStage fun stage => { stage with signals := change stage.signals }

def mapScenes (session : Session ω) (change : SceneLibrary → SceneLibrary) : Session ω :=
  session.mapStage fun stage => { stage with scenes := change stage.scenes }

def mapOutput (session : Session ω) (change : ω → ω) : Session ω :=
  session.mapStage fun stage => { stage with output := change stage.output }

def drainEvents (session : Session ω) : List Event × Session ω :=
  let (events, bus) := session.stage.bus.drain
  (events, session.mapStage fun stage => { stage with bus })

/-- Adds an idle player. Each player has a random sequence of its own. -/
def load (session : Session ω) (act : Act) : PlayerId × Session ω :=
  let id : PlayerId := ⟨session.nextPlayer⟩
  let settings := { session.settings with
    randomSeed := session.settings.randomSeed.map fun seed => seed + session.nextPlayer.toUInt64 }
  (id, { session with
    players := session.players ++ [Player.load id act settings session.seeding]
    nextPlayer := session.nextPlayer + 1 })

variable [Output ω]

/-- Puts a changed player and stage back. -/
@[inline] def replace (session : Session ω) (player : Player) (stage : Stage TimerQueue ω) :
    Session ω :=
  { session with
    stage
    players := session.players.map fun other => if other.id == player.id then player else other }

def start (session : Session ω) (id : PlayerId) :
    Option (Except SessionError Unit × Session ω) :=
  match session.player? id with
  | none => some (.error (.unknownPlayer id), session)
  | some player =>
      (player.start session.stage).map fun (result, player, stage) =>
        (result.mapError .act, session.replace player stage)

def stop (session : Session ω) (id : PlayerId) : Except SessionError Unit × Session ω :=
  match session.player? id with
  | none => (.error (.unknownPlayer id), session)
  | some player =>
      let (player, stage) := player.stop session.stage
      (.ok (), session.replace player stage)

/-- Stops a player and takes it out. -/
def unload (session : Session ω) (id : PlayerId) : Except SessionError Act × Session ω :=
  match session.player? id with
  | none => (.error (.unknownPlayer id), session)
  | some player =>
      let session := (session.stop id).2
      (.ok player.act,
        { session with players := session.players.filter fun other => other.id != id })

/-- Loads an act and starts it. The player stays loaded if it cannot be started. -/
def play (session : Session ω) (act : Act) : Option (Except SessionError PlayerId × Session ω) :=
  let (id, session) := session.load act
  (session.start id).map fun (result, session) => (result.map fun _ => id, session)

def stopAll (session : Session ω) : Session ω :=
  (session.players.map Player.id).foldl (fun session id => (session.stop id).2) session

/-- Routes a token to its player; one of an unknown player is dropped. -/
def deliver (session : Session ω) (token : Token) : Option (Session ω) :=
  match session.player? token.player with
  | none => some session
  | some player =>
      (player.onTimer session.stage token).map fun (player, stage) =>
        session.replace player stage

/-- Delivers at most the given number of timers of a window, in order. -/
def fire : Nat → Window → Session ω → Option (Session ω)
  | 0, _, session => some session
  | deliveries + 1, window, session =>
      match session.stage.clock.pop? window with
      | none => some session
      | some (token, clock) =>
          match (session.mapStage fun stage => stage.withClock clock).deliver token with
          | none => none
          | some session => fire deliveries window session

/-- The most steps that any player takes at one instant. -/
def largestBudget (session : Session ω) : Nat :=
  session.players.foldl (fun most player => max most player.settings.budget) 1

/-- More timers than can be delivered up to an instant. Delays are nothing or at least a
millisecond, and at one instant a player is delivered a timer for each step of its budget, one that
finds the budget spent, and one yield of an earlier window. -/
def deliveryBound (session : Session ω) (limit : Nat) : Nat :=
  session.pendingTimers + (session.pendingTimers + 1) *
    (((limit - session.now) / Span.perMillisecond + 2) * (session.largestBudget + 2))

/-- Delivers the timers of a window and closes it. -/
def fireWindow (session : Session ω) (window : Window) : Option (Session ω) :=
  (session.fire (session.deliveryBound window.limit) window).map fun session =>
    session.mapStage fun stage => stage.withClock (stage.clock.close window)

/-- Lets time pass up to an instant. -/
def advanceTo (session : Session ω) (target : Nat) : Option (Session ω) :=
  session.fireWindow (session.stage.clock.windowTo target)

/-- Lets an amount of time pass. -/
def advance (session : Session ω) (delay : Nat) : Option (Session ω) :=
  (session.stage.clock.windowBy? delay).bind session.fireWindow

/-- How many rounds in a row may leave the clock where it is. -/
def roundsPerInstant : Nat := 4096

/-- Advances from deadline to deadline until none is left up to `last`, or until `rounds` rounds in
a row have not moved the clock. -/
def settle (last : Nat) (rounds : Nat) (session : Session ω) : Option (Session ω) :=
  match session.nextDeadline? with
  | none => some session
  | some deadline =>
      if last < deadline ∨ last < session.now then some session
      else
        match session.advanceTo deadline with
        | none => none
        | some later =>
            if session.now < later.now then settle last roundsPerInstant later
            else if rounds ≤ 1 ∨ later.now < session.now then some later
            else settle last (rounds - 1) later
termination_by (last + 1 - session.now, rounds)
decreasing_by
  · apply Prod.Lex.left
    omega
  · apply Prod.Lex.right'
    · omega
    · omega

/-- Lets time pass from deadline to deadline while timers are left, at most `limit`, and tells how
much has passed. It gives up when players do not let the clock move. -/
def runUntilIdle (session : Session ω) (limit : Nat) : Option (Nat × Session ω) := do
  let last ← Span.after? session.now limit
  let later ← session.settle last roundsPerInstant
  some (later.now - session.now, later)

end Session

end LightingDesk
