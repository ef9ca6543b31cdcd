import LightingDesk.Act
/-!
Editing an act. New parts are given their ids; a change that is refused leaves the act as it is, and
any other one but `resetPlayback` and edits of a single node stamps the act with the time of the
change.
-/

namespace LightingDesk

inductive GraphError where
  | nodeNotFound (node : NodeId)
  | connectionNotFound (connection : ConnectionId)
  | duplicateNode (node : NodeId)
  | missingGuard (node : NodeId)
deriving DecidableEq, Repr

def GraphError.message : GraphError → String
  | nodeNotFound node => s!"node not found: {node.text}"
  | connectionNotFound connection => s!"connection not found: {connection.text}"
  | duplicateNode node => s!"duplicate node id: {node.text}"
  | missingGuard node => s!"conditional connection from {node.text} is missing a guard"

namespace Act

def touch (act : Act) (now : Timestamp) : Act := { act with updatedAt := now }

def addNode (act : Act) (now : Timestamp) (id : NodeId) (name : String) (kind : NodeKind)
    (position : Position) : Act :=
  touch { act with nodes := act.nodes ++ [⟨id, name, kind, position⟩] } now

def insertNode (act : Act) (now : Timestamp) (node : ActNode) : Except GraphError Act :=
  if act.hasNode node.id then .error (.duplicateNode node.id)
  else .ok (touch { act with nodes := act.nodes ++ [node] } now)

/-- A node whose tracker, if it is one, does not mention a child. -/
def forgetChild (child : NodeId) (node : ActNode) : ActNode :=
  match node.kind with
  | .tracker payload =>
      { node with
        kind := .tracker
          { payload with children := payload.children.filter fun other => other != child } }
  | _ => node

/-- Takes out the first node of an id, and with it every mention of the id. -/
def removeNode (act : Act) (now : Timestamp) (id : NodeId) : Except GraphError (ActNode × Act) :=
  match act.node? id with
  | none => .error (.nodeNotFound id)
  | some removed =>
      .ok (removed, touch
        { act with
          nodes := (act.nodes.eraseP fun node => node.id == id).map (forgetChild id)
          connections := act.connections.filter fun connection =>
            connection.source != id && connection.target != id
          startNode := if act.startNode = some id then none else act.startNode } now)

def addConnection (act : Act) (now : Timestamp) (id : ConnectionId) (source target : NodeId)
    (kind : ConnectionKind) (guard : Option String) : Except GraphError Act :=
  if !act.hasNode source then .error (.nodeNotFound source)
  else if !act.hasNode target then .error (.nodeNotFound target)
  else
    .ok (touch { act with
      connections := act.connections ++ [⟨id, source, target, kind, guard, none⟩] } now)

/-- Connects two nodes. A conditional connection needs a guard and is refused here. -/
def connect (act : Act) (now : Timestamp) (id : ConnectionId) (source target : NodeId)
    (kind : ConnectionKind) : Except GraphError Act :=
  if kind = .conditional then .error (.missingGuard source)
  else act.addConnection now id source target kind none

def connectConditional (act : Act) (now : Timestamp) (id : ConnectionId)
    (source target : NodeId) (guard : String) : Except GraphError Act :=
  act.addConnection now id source target .conditional (some guard)

/-- Takes out the first connection of an id. -/
def disconnect (act : Act) (now : Timestamp) (id : ConnectionId) :
    Except GraphError (Connection × Act) :=
  match act.connection? id with
  | none => .error (.connectionNotFound id)
  | some removed =>
      .ok (removed, touch
        { act with
          connections := act.connections.eraseP fun connection => connection.id == id } now)

def setStartNode (act : Act) (now : Timestamp) (id : NodeId) : Except GraphError Act :=
  if act.hasNode id then .ok (touch { act with startNode := some id } now)
  else .error (.nodeNotFound id)

def resetPlayback (act : Act) : Act := { act with playback := .idle }

/-- Changes the first node of an id; tells whether there is one. -/
def editNode (act : Act) (id : NodeId) (name : String) (kind : NodeKind → NodeKind) :
    Bool × Act :=
  (act.hasNode id, { act with nodes := editFirst act.nodes })
where
  editFirst : List ActNode → List ActNode
    | [] => []
    | node :: rest =>
        if node.id == id then { node with name, kind := kind node.kind } :: rest
        else node :: editFirst rest

end Act

end LightingDesk
