/-!
Scenes are named sets of channel levels. The library keeps them in the order in which their names
were first used.
-/

namespace LightingDesk

structure Scene where
  name : String
  levels : List (UInt16 × UInt8)
deriving DecidableEq

/-- Levels for the channels from zero on, as many as there are channel numbers. -/
def Scene.ofDense (name : String) (values : List UInt8) : Scene :=
  ⟨name, ((List.range 65536).map Nat.toUInt16).zip values⟩

structure SceneLibrary where
  scenes : List Scene
deriving DecidableEq

namespace SceneLibrary

def empty : SceneLibrary := ⟨[]⟩

/-- The first scene of a name. -/
def find? (library : SceneLibrary) (name : String) : Option Scene :=
  library.scenes.find? fun scene => scene.name == name

/-- Puts a scene in the place of the first scene of its name, or last. -/
def insertScene (scene : Scene) : List Scene → List Scene
  | [] => [scene]
  | first :: rest =>
      if first.name == scene.name then scene :: rest else first :: insertScene scene rest

def insert (library : SceneLibrary) (scene : Scene) : SceneLibrary :=
  ⟨insertScene scene library.scenes⟩

/-- Takes out the first scene of a name. -/
def remove (library : SceneLibrary) (name : String) : SceneLibrary :=
  ⟨library.scenes.eraseP fun scene => scene.name == name⟩

def ofList (scenes : List Scene) : SceneLibrary := scenes.foldl insert empty

theorem find?_insert_self (library : SceneLibrary) (scene : Scene) :
    (library.insert scene).find? scene.name = some scene := by
  obtain ⟨scenes⟩ := library
  simp only [insert, find?]
  induction scenes with
  | nil => simp [insertScene]
  | cons first rest ih =>
      unfold insertScene
      split
      · simp
      · next different => simp [different, ih]

end SceneLibrary

end LightingDesk
