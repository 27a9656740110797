import SceneBook.Mount.Dispatch
import SceneBook.Mount.Script

/-!
# Mounted programs

A program sets itself up on a store and hands over its scenes. What kind of things its scenes are is
its own affair, as long as they can be played. Mounting a program makes a store of its own, sets the
program up, and leaves one whose scenes can be run by number.
-/

namespace SceneBook.Mount

/-- Things that can be played as a scene: on a store, in a context, they make something of a
workspace and succeed or fail. -/
class Playable (α : Type) where
  play : α → Store → Slot → Workspace → Workspace × Except Failure Unit

/-- A scene that does whatever it likes. -/
abbrev Play := Store → Slot → Workspace → Workspace × Except Failure Unit

instance : Playable Play where
  play scene := scene

instance [Limits] : Playable Script where
  play script store context w := Script.run store context w script

/-- What sets a program up on its store and hands over the scenes. -/
abbrev Factory (α : Type) := Store → Workspace → Workspace × Except Failure (List α)

/-- A program bound to a store. The nodes are those that have been connected so far. -/
structure Bound (α : Type) where
  scenes : List α
  store : Store
  mountpoint : Value
  nodes : List (Text × Node)

namespace Bound

variable {α : Type}

def sceneCount (m : Bound α) : Nat := m.scenes.length

def run [Limits] [Playable α] (h : Heap) (m : Bound α) (number : Value) (context : Slot) :
    Heap × Bound α × Except Failure Unit :=
  match dispatch m.scenes number with
  | .error f => (h, m, .error f)
  | .ok scene =>
    let (w, result) := Playable.play scene m.store context ⟨h, m.nodes⟩
    (w.heap, { m with nodes := w.nodes }, result)

end Bound

/-- Mounts what a factory makes on a new store. The heap keeps what a factory did that failed. -/
def bind {α : Type} (h : Heap) (factory : Factory α) (initial : Slot) (mountpoint rootKey : Value) :
    Heap × Except Failure (Bound α) :=
  match Store.create h initial rootKey with
  | .error m => (h, .error (.misuse m))
  | .ok (h, store) =>
    match factory store ⟨h, []⟩ with
    | (w, .ok scenes) => (w.heap, .ok ⟨scenes, store, mountpoint, w.nodes⟩)
    | (w, .error f) => (w.heap, .error f)

structure Program where
  setup : Script
  scenes : List Script

def Program.factory [Limits] (p : Program) : Factory Script := fun store w =>
  let (w, result) := Script.run store (.scalar .null) w p.setup
  (w, result.map fun _ => p.scenes)

abbrev Mounted := Bound Script

def mount [Limits] (h : Heap) (p : Program) (initial : Slot) (mountpoint rootKey : Value) :
    Heap × Except Failure Mounted :=
  bind h p.factory initial mountpoint rootKey

end SceneBook.Mount
