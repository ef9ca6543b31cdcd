import LightingDesk.Playback.Route
import LightingDesk.Playback.Stage
import LightingDesk.Settings
import LightingDesk.Tracker.Memory
/-!
A player walks one act. It enters a node, lets it write to the output or wait for a timer, and goes
on along a connection. Everything it does is one of three steps, so an act with cycles runs without
a growing stack. A tracker puts its current child on a frame above its own; a child that is done
gives way to its tracker instead of following a connection.

Operations have no answer (`none`) when a deadline would lie past the last instant of the clock.
-/

namespace LightingDesk

inductive Step where
  | enter (node : NodeId)
  | complete (route : Route)
  | trackerStep (node : NodeId)
deriving DecidableEq, Repr

/-- The step that waits for a timer. -/
structure Wait where
  handle : Nat
  resume : Step
  armedAt : Nat
  delay : Nat
  curve : Option Curve
  yielded : Bool
deriving DecidableEq, Repr

structure Player where
  id : PlayerId
  act : Act
  settings : EngineSettings
  generator : Generator
  playing : Bool
  /-- Counts the starts and the ends of playbacks. -/
  generation : Nat
  /-- The nodes that are being played, innermost first; the last one was reached in the graph. -/
  frames : List NodeId
  waiting : Option Wait
  memory : TrackerMemory
  startedAt : Nat
  /-- The instant of the present run of steps, and the steps taken in it. -/
  burstAt : Nat
  burstSteps : Nat
  maxDepth : Nat
  steps : Nat


namespace Player

def load (id : PlayerId) (act : Act) (settings : EngineSettings) (seeding : Seeding) : Player :=
  { id, act, settings, generator := seeding.generator settings.randomSeed id, playing := false
    generation := 0, frames := [], waiting := none, memory := .empty, startedAt := 0
    burstAt := 0, burstSteps := 0, maxDepth := 0, steps := 0 }

/-- The node that was reached in the graph. -/
def currentNode? (player : Player) : Option NodeId := player.frames.getLast?

def depth (player : Player) : Nat := player.frames.length

def token (player : Player) : Token := ⟨player.id, player.generation⟩

/-- How much of the present delay has passed, along the curve of a transition. -/
def progress (player : Player) (now : Nat) : Float32 :=
  match player.waiting with
  | some wait =>
      if player.playing && wait.delay != 0 then
        let linear := Curve.portion (now - wait.armedAt) wait.delay
        match wait.curve with
        | some curve => curve.ease linear
        | none => linear
      else 0
  | none => 0

def snapshot (player : Player) (now : Nat) : PlaybackState :=
  ⟨player.playing, player.currentNode?, player.progress now⟩

variable {σ ω : Type} [Scheduler σ] [Output ω]

def warn (player : Player) (stage : Stage σ ω) (fault : Fault) : Stage σ ω :=
  stage.emit (.warning player.id player.act.id fault)

/-- Ends the playback: its timer is cancelled, and tokens that were issued for it become stale. -/
def finish (player : Player) (stage : Stage σ ω) (reason : StopReason) : Player × Stage σ ω :=
  let stage := match player.waiting with
    | some wait => stage.withClock (Scheduler.cancel stage.clock wait.handle)
    | none => stage
  ({ player with
      playing := false
      generation := player.generation + 1
      waiting := none
      frames := [] },
    stage.emit (.stopped player.id player.act.id reason))

/-- Makes `wait` the waiting step; the timer of one that waited before is cancelled. -/
def await (player : Player) (stage : Stage σ ω) (wait : Wait) : Player × Stage σ ω :=
  let stage := match player.waiting with
    | some previous => stage.withClock (Scheduler.cancel stage.clock previous.handle)
    | none => stage
  ({ player with waiting := some wait }, stage)

/-- Arms a timer after which `resume` is taken. -/
def arm (player : Player) (stage : Stage σ ω) (delay : Nat) (resume : Step)
    (curve : Option Curve) : Option (Player × Stage σ ω) := do
  let (handle, clock) ← Scheduler.schedule stage.clock delay player.token
  some (player.await (stage.withClock clock)
    ⟨handle, resume, Scheduler.now clock, delay, curve, false⟩)

/-- Leaves `resume` to the next run of deliveries. -/
def armYield (player : Player) (stage : Stage σ ω) (resume : Step) :
    Option (Player × Stage σ ω) := do
  let (handle, clock) ← Scheduler.scheduleYield stage.clock player.token
  some (player.await (stage.withClock clock)
    ⟨handle, resume, Scheduler.now clock, 0, none, true⟩)

/-- A delay as authors write it; less than nothing is nothing. -/
def delayOf (milliseconds : Int64) : Nat := Span.ofMilliseconds milliseconds.toInt.toNat

/-- Puts the scene of a node on the output; a name that no scene has is worth a warning. -/
def showScene (player : Player) (stage : Stage σ ω) (node : NodeId) (payload : ScenePayload) :
    Stage σ ω :=
  if payload.scene.isEmpty then stage
  else
    match stage.scenes.find? payload.scene with
    | some scene => Stage.apply player.id payload.mutedFixtures scene.levels stage
    | none => player.warn stage (.missingScene node payload.scene)

/-- The outcome of a condition. Without a reading it is not met. -/
def test (player : Player) (stage : Stage σ ω) (predicate : Predicate) : Bool :=
  match stage.sample (stage.now - player.startedAt) predicate.source with
  | some value => predicate.holds value
  | none => false

/-- What comes of a step: the player and the stage after it, and the step that follows at once. -/
abbrev Turn (σ ω : Type) := Player × Stage σ ω × Option Step

def goOn (player : Player) (stage : Stage σ ω) (step : Step) : Option (Turn σ ω) :=
  some (player, stage, some step)

def pause (turn : Option (Player × Stage σ ω)) : Option (Turn σ ω) :=
  turn.map fun (player, stage) => (player, stage, none)

/-- Puts a node on the frames and starts what it does. -/
def enter (player : Player) (stage : Stage σ ω) (id : NodeId) : Option (Turn σ ω) :=
  match player.act.node? id with
  | none => pause (some (player.finish stage .completed))
  | some node =>
      let frames := id :: player.frames
      let player := { player with frames, maxDepth := max player.maxDepth frames.length }
      let stage := stage.emit (.nodeEntered player.id player.act.id id)
      match node.kind with
      | .scene payload => goOn player (player.showScene stage id payload) (.complete .first)
      | .wait payload =>
          pause (player.arm stage (delayOf payload.durationMs) (.complete .first) none)
      | .transition payload =>
          pause (player.arm stage (delayOf payload.durationMs) (.complete .first)
            (some payload.curve))
      | .condition payload =>
          goOn player stage
            (.complete (.ofOutcome player.act id (player.test stage payload.predicate)))
      | .tracker _ => goOn player stage (.trackerStep id)

/-- What a tracker does when its child is done: wait for the next one, or be done itself. -/
def childDone (player : Player) (stage : Stage σ ω) (id : NodeId) : Option (Turn σ ω) :=
  match (player.act.node? id).map ActNode.kind with
  | some (.tracker payload) =>
      if payload.children.isEmpty then goOn player stage (.complete .first)
      else
        let (move, generator) := payload.mode.advance payload.children.length
          (player.memory.position id payload) player.generator
        let player := { player with generator }
        match move with
        | .finished =>
            goOn { player with memory := player.memory.forget id } stage (.complete .first)
        | .to position =>
            pause ({ player with memory := player.memory.store id position }.arm stage
              (Span.ofMilliseconds payload.stepDelayMs.toNat) (.trackerStep id) none)
  | _ => goOn player stage (.complete .first)

/-- Leaves the graph node `done` along a route. -/
def follow (player : Player) (stage : Stage σ ω) (done : NodeId) (route : Route) :
    Option (Turn σ ω) :=
  match route with
  | .noMatch branch =>
      pause (some (player.finish stage (.fault (.noMatchingBranch done branch))))
  | route =>
      match route.connection? player.act done with
      | none => pause (some (player.finish stage .completed))
      | some edge =>
          match player.act.target? edge with
          | some target => goOn player stage (.enter target.id)
          | none =>
              pause (some (player.finish stage
                (.fault (.danglingEdge edge.id done edge.target))))

/-- The innermost node is done. A child gives way to its tracker, whatever its route. -/
def complete (player : Player) (stage : Stage σ ω) (route : Route) : Option (Turn σ ω) :=
  match player.frames with
  | [] => pause (some (player, stage))
  | done :: below =>
      let player := { player with frames := below }
      match below with
      | tracker :: _ => player.childDone stage tracker
      | [] => player.follow stage done route

/-- Starts the child that is due. A tracker without such a child, or whose child is being played
already, is done. -/
def trackerStep (player : Player) (stage : Stage σ ω) (id : NodeId) : Option (Turn σ ω) :=
  match (player.act.node? id).map ActNode.kind with
  | some (.tracker payload) =>
      match payload.children[(player.memory.position id payload).index]? with
      | none => goOn player (player.warn stage (.emptyTracker id)) (.complete .first)
      | some child =>
          if !player.act.hasNode child then
            goOn { player with memory := player.memory.forget id }
              (player.warn stage (.missingTrackerChild id child)) (.complete .first)
          else if player.frames.contains child then
            goOn player (player.warn stage (.trackerCycle id child)) (.complete .first)
          else goOn player stage (.enter child)
  | _ => goOn player stage (.complete .first)

def execute (player : Player) (stage : Stage σ ω) : Step → Option (Turn σ ω)
  | .enter node => player.enter stage node
  | .complete route => player.complete stage route
  | .trackerStep node => player.trackerStep stage node

/-- Takes at most the given number of steps; one that is left over waits for the next run. -/
def run : Nat → Player → Stage σ ω → Step → Option (Player × Stage σ ω)
  | 0, player, stage, step => player.armYield stage step
  | steps + 1, player, stage, step =>
      let player := { player with burstSteps := player.burstSteps + 1, steps := player.steps + 1 }
      match player.execute stage step with
      | none => none
      | some (player, stage, none) => some (player, stage)
      | some (player, stage, some next) => run steps player stage next

/-- Begins a run of steps. Runs at one instant share a budget, unless this one is `fresh`. -/
def drive (player : Player) (stage : Stage σ ω) (first : Step) (fresh : Bool) :
    Option (Player × Stage σ ω) :=
  let player :=
    if fresh || stage.now != player.burstAt then
      { player with burstAt := stage.now, burstSteps := 0 }
    else player
  run (player.settings.budget - player.burstSteps) player stage first

/-- Stops a playback; an idle player stays as it is. -/
def stop (player : Player) (stage : Stage σ ω) : Player × Stage σ ω :=
  if player.playing then player.finish stage .stoppedByUser else (player, stage)

/-- Starts from the start node, after stopping a playback that is under way. An act without nodes
cannot be started. -/
def start (player : Player) (stage : Stage σ ω) :
    Option (Except Fault Unit × Player × Stage σ ω) :=
  let (player, stage) := player.stop stage
  match player.act.startId? with
  | none =>
      some (.error .emptyGraph, player,
        stage.emit (.stopped player.id player.act.id (.fault .emptyGraph)))
  | some node =>
      let player := { player with
        generation := player.generation + 1
        playing := true
        frames := []
        memory := .empty
        startedAt := stage.now }
      (player.drive stage (.enter node) true).map fun (player, stage) => (.ok (), player, stage)

/-- Delivers a timer. A token of another player or of an earlier playback has no effect. -/
def onTimer (player : Player) (stage : Stage σ ω) (token : Token) :
    Option (Player × Stage σ ω) :=
  if token != player.token || !player.playing then some (player, stage)
  else
    match player.waiting with
    | none => some (player, stage)
    | some wait => { player with waiting := none }.drive stage wait.resume wait.yielded

end Player

end LightingDesk
