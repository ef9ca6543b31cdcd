import LightingDesk.Condition
import LightingDesk.Curve
import LightingDesk.FixtureSet
import LightingDesk.Timestamp
import LightingDesk.Tracker
/-!
An act is a directed graph of timed lighting operations. Nodes and connections are kept in the
order in which they were added; where ids repeat or several connections leave a node, the first one
counts.
-/

namespace LightingDesk

structure Position where
  x : Float32
  y : Float32
deriving BEq

def Position.origin : Position := ⟨0, 0⟩

/-- The scene that a node puts on the output, without the channels of the muted fixtures. -/
structure ScenePayload where
  scene : String
  mutedFixtures : FixtureSet
deriving DecidableEq

namespace ScenePayload

def ofScene (scene : String) : ScenePayload := ⟨scene, .empty⟩

def muting (payload : ScenePayload) (fixture : FixtureId) : ScenePayload :=
  { payload with mutedFixtures := payload.mutedFixtures.insert fixture }

end ScenePayload

structure WaitPayload where
  durationMs : Int64
deriving DecidableEq

def WaitPayload.standard : WaitPayload := ⟨3000⟩

inductive TransitionShape where
  | fade
  | crossfade
  | cut
  | wipe
deriving DecidableEq, Repr

structure TransitionPayload where
  durationMs : Int64
  curve : Curve
  shape : TransitionShape
deriving DecidableEq

def TransitionPayload.standard : TransitionPayload := ⟨1000, .easeInOut, .fade⟩

structure ConditionPayload where
  predicate : Predicate
deriving BEq

/-- What a node does. -/
inductive NodeKind where
  | scene (payload : ScenePayload)
  | transition (payload : TransitionPayload)
  | wait (payload : WaitPayload)
  | condition (payload : ConditionPayload)
  | tracker (payload : TrackerPayload)
deriving BEq

namespace NodeKind

def label : NodeKind → String
  | scene _ => "scene"
  | transition _ => "transition"
  | wait _ => "wait"
  | condition _ => "condition"
  | tracker _ => "tracker"

def isCondition : NodeKind → Bool
  | condition _ => true
  | _ => false

end NodeKind

structure ActNode where
  id : NodeId
  name : String
  kind : NodeKind
  position : Position
deriving BEq

inductive ConnectionKind where
  | default
  | conditional
  | timeout
deriving DecidableEq, Repr

/-- A connection from the node `source` to the node `target`. -/
structure Connection where
  id : ConnectionId
  source : NodeId
  target : NodeId
  kind : ConnectionKind
  guard : Option String
  timeoutMs : Option UInt64
deriving DecidableEq

/-- A conditional connection serves a branch whose label is its guard, whatever the blanks around
the guard and the case of its letters. -/
def Connection.servesBranch (connection : Connection) (branch : String) : Bool :=
  connection.kind == .conditional &&
    connection.guard.any fun guard => Text.sameLetters (Text.trim guard) branch

structure OscTrigger where
  address : String
  enabled : Bool
deriving DecidableEq

structure MidiTrigger where
  channel : UInt8
  note : UInt8
  enabled : Bool
deriving DecidableEq

structure Triggers where
  osc : Option OscTrigger
  midi : Option MidiTrigger
deriving DecidableEq

def Triggers.none : Triggers := ⟨.none, .none⟩

/-- How far a playback has come, as it is shown to the host. -/
structure PlaybackState where
  isPlaying : Bool
  currentNode : Option NodeId
  progress : Float32
deriving BEq

def PlaybackState.idle : PlaybackState := ⟨false, none, 0⟩

structure Act where
  id : ActId
  name : String
  description : Option String
  nodes : List ActNode
  connections : List Connection
  startNode : Option NodeId
  triggers : Triggers
  playback : PlaybackState
  createdAt : Timestamp
  updatedAt : Timestamp
deriving BEq

namespace Act

def empty (id : ActId) (name : String) (now : Timestamp) : Act :=
  { id, name, description := none, nodes := [], connections := [], startNode := none,
    triggers := .none, playback := .idle, createdAt := now, updatedAt := now }

def node? (act : Act) (id : NodeId) : Option ActNode := act.nodes.find? fun node => node.id == id

def hasNode (act : Act) (id : NodeId) : Bool := (act.node? id).isSome

def connection? (act : Act) (id : ConnectionId) : Option Connection :=
  act.connections.find? fun connection => connection.id == id

/-- The connections that leave a node, in the order in which they were added. -/
def outgoing (act : Act) (node : NodeId) : List Connection :=
  act.connections.filter fun connection => connection.source == node

def firstOutgoing? (act : Act) (node : NodeId) : Option Connection :=
  act.connections.find? fun connection => connection.source == node

def target? (act : Act) (connection : Connection) : Option ActNode := act.node? connection.target

/-- Where a playback begins: at the node that is marked, if there is one, and else at the first. -/
def startId? (act : Act) : Option NodeId :=
  match act.startNode with
  | some id => if act.hasNode id then some id else act.nodes.head?.map ActNode.id
  | none => act.nodes.head?.map ActNode.id

theorem firstOutgoing?_eq_head? (act : Act) (node : NodeId) :
    act.firstOutgoing? node = (act.outgoing node).head? :=
  (List.head?_filter ..).symm

end Act

end LightingDesk
