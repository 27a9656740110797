import SceneBook.Failure

/-!
# Dispatch

Scenes are asked for by number from one on. Any value that is not such a number is refused, truth
values among them.
-/

namespace SceneBook.Mount

/-- The scene of a number, or a report that carries what was asked for. -/
def dispatch [Limits] {α : Type} (scenes : List α) (number : Value) : Except Failure α :=
  match number with
  | .scalar (.int n) =>
    match (if 1 ≤ n then scenes[(n - 1).toNat]? else none) with
    | some s => .ok s
    | none => .error (Report.sceneOutOfRange number (.int scenes.length)).failure
  | _ => .error (Report.sceneOutOfRange number (.int scenes.length)).failure

end SceneBook.Mount
