import LightingDesk.Act.Review
import LightingDesk.CommandLine.Help
import LightingDesk.Show
/-!
What the command line prints about a show: the findings on its acts, and what it contains.
-/

namespace LightingDesk.CommandLine

/-- The findings on an act. -/
def reviewLines (act : Act) : List String :=
  match act.review with
  | [] => [s!"{act.name}: ok"]
  | issues =>
      s!"{act.name}:" :: issues.map fun issue =>
        "  " ++ padTo 7 issue.severity.label ++ " " ++ issue.message

def errorCount (content : Show) : Nat :=
  (content.acts.flatMap fun act =>
    act.review.filter fun issue => issue.severity == .error).length

def nodeLine (act : Act) (node : ActNode) : String :=
  let mark := if act.startNode = some node.id then "*" else " "
  "    " ++ mark ++ padTo 10 node.kind.label ++ " " ++ node.name

def oscLines (triggers : Triggers) : List String :=
  triggers.osc.toList.map fun trigger =>
    s!"    osc trigger {trigger.address} (enabled: {toString trigger.enabled})"

def midiLines (triggers : Triggers) : List String :=
  triggers.midi.toList.map fun trigger =>
    s!"    midi trigger ch {trigger.channel.toNat} note {trigger.note.toNat} " ++
      s!"(enabled: {toString trigger.enabled})"

def actLine (act : Act) : String :=
  s!"  {act.name} [{act.id.text}] - {act.nodes.length} nodes, " ++
    s!"{act.connections.length} connections"

def actLines (act : Act) : List String :=
  actLine act :: act.nodes.map (nodeLine act) ++ oscLines act.triggers ++ midiLines act.triggers

def sceneLine (scene : Scene) : String := s!"  {scene.name} - {scene.levels.length} channels"

def fixtureLine (fixture : Fixture) : String :=
  s!"  {fixture.id} {fixture.name} @ {fixture.startAddress.toNat}-{fixture.endAddress} " ++
    s!"({fixture.profile.name})"

def showLines (content : Show) : List String :=
  s!"Show: {content.name} (universe {content.universeNumber.toNat})" ::
    s!"Acts ({content.acts.length}):" :: content.acts.flatMap actLines ++
    s!"Scenes ({content.scenes.scenes.length}):" :: content.scenes.scenes.map sceneLine ++
    s!"Fixtures ({content.fixtures.length}):" :: content.fixtures.map fixtureLine

end LightingDesk.CommandLine
