/-!
# Ranges of code points

Character classes are sorted tables of closed ranges; a search stops at the first range that
starts above the number.
-/

namespace SceneBook.Text

def inRanges : List (Nat × Nat) → Nat → Bool
  | [], _ => false
  | (lo, hi) :: rest, n => if n < lo then false else if n ≤ hi then true else inRanges rest n

/-- Runs of a mapping that shifts every `step`-th number between `lo` and `hi` by `delta`. -/
structure ShiftRun where
  lo : Nat
  hi : Nat
  step : Nat
  delta : Int

def shifted : List ShiftRun → Nat → Nat
  | [], n => n
  | r :: rest, n =>
    if n < r.lo then n
    else if n ≤ r.hi ∧ (n - r.lo) % r.step = 0 then (n + r.delta).toNat
    else shifted rest n

end SceneBook.Text
