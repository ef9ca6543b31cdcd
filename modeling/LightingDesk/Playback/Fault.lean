import LightingDesk.Identifier
/-!
What can go wrong with an act while it plays. Some faults end the playback; from the others it
recovers with a warning.
-/

namespace LightingDesk

inductive Fault where
  | emptyGraph
  | danglingEdge (connection : ConnectionId) (source target : NodeId)
  | noMatchingBranch (node : NodeId) (branch : String)
  | missingScene (node : NodeId) (scene : String)
  | emptyTracker (node : NodeId)
  | missingTrackerChild (node child : NodeId)
  | trackerCycle (node child : NodeId)
deriving DecidableEq, Repr

namespace Fault

def isTerminal : Fault → Bool
  | emptyGraph | danglingEdge .. | noMatchingBranch .. => true
  | missingScene .. | emptyTracker _ | missingTrackerChild .. | trackerCycle .. => false

def message : Fault → String
  | emptyGraph => "act has no nodes"
  | danglingEdge connection source target =>
      s!"connection {connection.text} from {source.text} references missing node {target.text}"
  | noMatchingBranch node branch =>
      s!"condition node {node.text} has no edge for branch '{branch}'"
  | missingScene node scene => s!"scene node {node.text} references unknown scene '{scene}'"
  | emptyTracker node => s!"tracker node {node.text} has no children"
  | missingTrackerChild node child =>
      s!"tracker node {node.text} references missing child {child.text}"
  | trackerCycle node child =>
      s!"tracker node {node.text} would re-enter {child.text}, which is already running"

end Fault

end LightingDesk
