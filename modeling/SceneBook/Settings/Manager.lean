import SceneBook.Settings.Merge
import SceneBook.Yaml.Writing

/-!
# Settings managers

A manager loads settings once and then keeps them; saved settings are kept as they are. What is
kept has a mark, so that a caller can tell whether two loads gave the very same settings.
-/

namespace SceneBook.Settings

structure Kept where
  mark : Nat
  settings : Settings

structure Manager where
  kept : Option Kept
  nextMark : Nat

namespace Manager

def first : Manager := ⟨none, 0⟩

/-- Another manager, which has kept nothing. -/
def another (m : Manager) : Manager := ⟨none, m.nextMark⟩

def keep (m : Manager) (s : Settings) : Manager := ⟨some ⟨m.nextMark, s⟩, m.nextMark + 1⟩

/-- The kept settings, or else those of the sources, which are then kept. -/
def load [Limits] (m : Manager) (s : Sources) : Manager × Except Failure Kept :=
  match m.kept with
  | some k => (m, .ok k)
  | none =>
    match s.load with
    | .ok t => (m.keep t, .ok ⟨m.nextMark, t⟩)
    | .error f => (m, .error f)

/-- Keeps settings without checking them; the text is what goes into the file of the project. -/
def save (m : Manager) (s : Settings) : Manager × Text := (m.keep s, Yaml.write s.toDocument)

end Manager

end SceneBook.Settings
