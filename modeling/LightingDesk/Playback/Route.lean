import LightingDesk.Act
/-!
Which connection a playback follows when a node is done: the first one, or for a condition the one
that serves the branch of its outcome.
-/

namespace LightingDesk

inductive Route where
  | first
  | along (connection : ConnectionId)
  | noMatch (branch : String)
deriving DecidableEq, Repr

/-- The first connection that serves the branch, else the first default one. A node that nothing
leaves simply ends the act. -/
def Route.ofBranch (act : Act) (node : NodeId) (branch : String) : Route :=
  match act.outgoing node with
  | [] => .first
  | edges =>
      match edges.find? fun edge => edge.servesBranch branch with
      | some edge => .along edge.id
      | none =>
          match edges.find? fun edge => edge.kind == .default with
          | some edge => .along edge.id
          | none => .noMatch branch

def Route.ofOutcome (act : Act) (node : NodeId) (outcome : Bool) : Route :=
  ofBranch act node (branchLabel outcome)

/-- The connection that a route leads along. -/
def Route.connection? (act : Act) (node : NodeId) : Route → Option Connection
  | first => act.firstOutgoing? node
  | along id => act.connection? id
  | noMatch _ => none

end LightingDesk
