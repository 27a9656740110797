/-!
# Limits

Functions that call themselves go only as deep as the stack lets them, and how much of it is left
depends on who calls.
-/

namespace SceneBook

class Limits where
  /-- Segments of a path that are walked. -/
  path : Nat
  /-- Mappings inside each other that are merged. -/
  merge : Nat
  /-- Collections inside each other that a message shows. -/
  shown : Nat
  path_pos : 0 < path
  two_le_merge : 2 ≤ merge

/-- The limits as measured for calls from the top of a program, on a stack of a thousand frames. -/
instance Limits.measured : Limits := ⟨985, 980, 977, by decide, by decide⟩

end SceneBook
