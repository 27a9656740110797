import SceneBook.Import.Given

/-!
# Workbooks

A workbook is an ordered list of scenes, and a scene an ordered list of fragments, each a text in
one language. Scenes are numbered from one and indexed from zero.
-/

namespace SceneBook

/-- Whether a fragment is hoisted into a shared artifact or stays in its scene. -/
inductive Mode
  | define
  | eval
  deriving DecidableEq

structure Classification where
  mode : Mode
  subtype : Option Text
  definitionName : Option Text
  deriving DecidableEq

structure Fragment where
  language : Text
  code : Text
  attrs : Entries Value
  classification : Option Classification

structure Scene where
  index : Int
  fragments : List Fragment

structure Workbook where
  moduleName : Text
  scenes : List Scene
  imports : List Import

namespace Mode

def word : Mode → Text
  | .define => "define"
  | .eval => "eval"

end Mode

namespace Classification

def eval : Classification := ⟨.eval, none, none⟩

def isDefinition (c : Classification) : Bool := c.mode = .define

end Classification

namespace Scene

def number (s : Scene) : Int := s.index + 1

def fragmentsOf (s : Scene) (language : Text) : List Fragment :=
  s.fragments.filter fun f => f.language = language

end Scene

namespace Workbook

def sceneCount (w : Workbook) : Nat := w.scenes.length

/-- The languages of the fragments, each once, in the order of first use. -/
def languages (w : Workbook) : List Text :=
  (w.scenes.flatMap fun s => s.fragments.map Fragment.language).eraseDups

def verdicts (w : Workbook) : List (List (Option Classification)) :=
  w.scenes.map fun s => s.fragments.map Fragment.classification

def scenesFrom (start : Nat) : List (List Fragment) → List Scene
  | [] => []
  | fs :: rest => ⟨start, fs⟩ :: scenesFrom (start + 1) rest

def build (moduleName : Text) (imports : List Import) (scenes : List (List Fragment)) : Workbook :=
  ⟨moduleName, scenesFrom 0 scenes, imports⟩

end Workbook

end SceneBook
