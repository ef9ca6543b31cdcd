import LightingDesk.Act
import LightingDesk.Graph.Search
/-!
A review of an act before it is played: defects that playing it would meet, and facts about its
graph that may be intended.
-/

namespace LightingDesk

inductive Severity where
  | info
  | warning
  | error
deriving DecidableEq, Repr

def Severity.label : Severity → String
  | info => "info"
  | warning => "warning"
  | error => "error"

inductive Issue where
  | empty
  | danglingConnection (connection : ConnectionId) (missing : NodeId)
  | missingStartNode (node : NodeId)
  | emptyTracker (node : NodeId)
  | missingTrackerChild (tracker child : NodeId)
  | conditionWithoutDefault (node : NodeId)
  | ignoredEdges (node : NodeId) (count : Nat)
  | unreachable (node : NodeId)
  | cycle (nodes : List NodeId)
deriving DecidableEq, Repr

namespace Issue

def severity : Issue → Severity
  | empty | danglingConnection .. => .error
  | missingStartNode _ | emptyTracker _ | missingTrackerChild .. | conditionWithoutDefault _ =>
      .warning
  | ignoredEdges .. | unreachable _ | cycle _ => .info

def message : Issue → String
  | empty => "act has no nodes"
  | danglingConnection connection missing =>
      s!"connection {connection.text} references missing node {missing.text}"
  | missingStartNode node => s!"start node {node.text} does not exist"
  | emptyTracker node => s!"tracker {node.text} has no children"
  | missingTrackerChild tracker child =>
      s!"tracker {tracker.text} references missing child {child.text}"
  | conditionWithoutDefault node => s!"condition {node.text} has no default edge"
  | ignoredEdges node count =>
      s!"node {node.text} has {count} outgoing edge(s) that are never followed"
  | unreachable node => s!"node {node.text} is unreachable from the start node"
  | cycle nodes => "cycle through " ++ String.intercalate " -> " (nodes.map NodeId.text)

end Issue

namespace Act

open LightingDesk.Graph

/-- The place of the last node of an id; edges are attached there. -/
def vertex? (act : Act) (id : NodeId) : Option Nat :=
  lastIndex act.nodes 0
where
  lastIndex : List ActNode → Nat → Option Nat
    | [], _ => none
    | node :: rest, index =>
        match lastIndex rest (index + 1) with
        | some found => some found
        | none => if node.id == id then some index else none

/-- The connections whose two ends are nodes. -/
def connectionGraph (act : Act) : Digraph :=
  { size := act.nodes.length
    edges := act.connections.filterMap fun connection =>
      match act.vertex? connection.source, act.vertex? connection.target with
      | some source, some target => some (source, target)
      | _, _ => none }

/-- From each tracker to its children that are nodes. -/
def childEdges (act : Act) : List (Nat × Nat) :=
  act.nodes.flatMap fun node =>
    match node.kind, act.vertex? node.id with
    | .tracker payload, some tracker =>
        (payload.children.filterMap act.vertex?).map fun child => (tracker, child)
    | _, _ => []

/-- Everything a playback may go along: connections, and trackers to their children. -/
def playGraph (act : Act) : Digraph :=
  { act.connectionGraph with edges := act.connectionGraph.edges ++ act.childEdges }

def danglingIssues (act : Act) : List Issue :=
  act.connections.filterMap fun connection =>
    if !act.hasNode connection.source then
      some (.danglingConnection connection.id connection.source)
    else if !act.hasNode connection.target then
      some (.danglingConnection connection.id connection.target)
    else none

def idAt (act : Act) (vertex : Nat) : NodeId := (act.nodes[vertex]?.map ActNode.id).getD ⟨""⟩

def sortIds (ids : List NodeId) : List NodeId :=
  ids.mergeSort fun first second => !(decide (second.text < first.text))

/-- Trackers play their children without following connections, so these alone make cycles. -/
def cycleIssues (act : Act) : List Issue :=
  (act.connectionGraph.components.filter act.connectionGraph.isLoop).map fun component =>
    .cycle (sortIds (component.map act.idAt))

/-- The findings on one node. -/
def nodeIssues (act : Act) (node : ActNode) : List Issue :=
  let outgoing := act.outgoing node.id
  match node.kind with
  | .condition _ =>
      if !outgoing.isEmpty && !outgoing.any fun edge => edge.kind == .default then
        [.conditionWithoutDefault node.id]
      else []
  | kind =>
      (match kind with
        | .tracker payload =>
            (if payload.children.isEmpty then [.emptyTracker node.id] else []) ++
              payload.children.filterMap fun child =>
                if act.hasNode child then none else some (.missingTrackerChild node.id child)
        | _ => []) ++
        if 1 < outgoing.length then [.ignoredEdges node.id (outgoing.length - 1)] else []

def startIssues (act : Act) : List Issue :=
  match act.startNode with
  | some id => if act.hasNode id then [] else [.missingStartNode id]
  | none => []

def unreachableIssues (act : Act) : List Issue :=
  match act.startId?.bind act.vertex? with
  | none => []
  | some start =>
      let reached := act.playGraph.reached start
      act.nodes.filterMap fun node =>
        if (act.vertex? node.id).any reached.contains then none else some (.unreachable node.id)

def ofSeverity (severity : Severity) (issues : List Issue) : List Issue :=
  issues.filter fun issue => issue.severity == severity

/-- The findings on an act, most severe first, and otherwise in the order of discovery. -/
def review (act : Act) : List Issue :=
  if act.nodes.isEmpty then [.empty]
  else
    let issues := act.danglingIssues ++ act.cycleIssues ++ act.nodes.flatMap act.nodeIssues ++
      act.startIssues ++ act.unreachableIssues
    ofSeverity .error issues ++ ofSeverity .warning issues ++ ofSeverity .info issues

end Act

end LightingDesk
