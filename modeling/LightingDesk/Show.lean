import LightingDesk.Act.Authoring
import LightingDesk.Dmx.Universe
import LightingDesk.Scene
/-!
A show is what a desk needs to play: acts, a library of scenes, and the fixtures of a universe.
-/

namespace LightingDesk

structure Show where
  name : String
  acts : List Act
  scenes : SceneLibrary
  fixtures : List Fixture
  universeNumber : UInt16
deriving BEq

/-- The first act with an id, and if there is none the first one with a name. -/
def findAct? (acts : List Act) (key : String) : Option Act :=
  match acts.find? fun act => act.id.text == key with
  | some act => some act
  | none => acts.find? fun act => act.name == key

namespace Show

def empty (name : String) : Show := ⟨name, [], .empty, [], 0⟩

def find? (content : Show) (key : String) : Option Act := findAct? content.acts key

def act? (content : Show) (id : ActId) : Option Act := content.acts.find? fun act => act.id == id

/-- The universe of a show with all of its fixtures patched, in order. -/
def universe? (content : Show) : Except PatchError Universe :=
  (Universe.empty content.universeNumber).patchAll content.fixtures

/-- A show whose acts are idle. -/
def atRest (content : Show) : Show := { content with acts := content.acts.map Act.resetPlayback }

end Show

end LightingDesk
