import SceneBook.Limits
import SceneBook.Misuse
import SceneBook.Number.Spelled
import SceneBook.Value.Basic

/-!
# Shown values

How a value is written inside a message: lists in brackets, mappings in braces, text quoted, and
dots in the place of what contains itself. A text that is the whole value stands unquoted.
-/

namespace SceneBook

def Scalar.isWritable : Scalar → Bool
  | .int i => Text.isWritable i
  | _ => true

namespace Value

mutual

def shown : Value → Text
  | .scalar s => s.shown
  | .list items => "[" ++ Text.join ", " (shownItems items) ++ "]"
  | .tuple [v] => "(" ++ shown v ++ ",)"
  | .tuple items => "(" ++ Text.join ", " (shownItems items) ++ ")"
  | .set [] => "set()"
  | .set ks => "\x7b" ++ Text.join ", " (ks.map Scalar.shown) ++ "\x7d"
  | .map es => "\x7b" ++ Text.join ", " (shownEntries es) ++ "\x7d"
  | .knot _ b => shown b
  | .back _ m => if m then "\x7b...\x7d" else "[...]"

def shownItems : List Value → List Text
  | [] => []
  | v :: rest => shown v :: shownItems rest

def shownEntries : List (Scalar × Value) → List Text
  | [] => []
  | (k, v) :: rest => (k.shown ++ ": " ++ shown v) :: shownEntries rest

end

mutual

/-- What keeps a value from being written where so many collections may stand inside each other: the
first collection that stands deeper, or the first whole number that is too long. -/
def obstacle? : Nat → Value → Option Misuse
  | _, .scalar s => if s.isWritable then none else some .tooLong
  | room, .list items | room, .tuple items => obstacleOfItems? room items
  | room, .set ks =>
    if ks.isEmpty then none
    else if room < 2 then some .tooDeep
    else if ks.all Scalar.isWritable then none
    else some .tooLong
  | room, .map es => obstacleOfEntries? room es
  | room, .knot _ b => obstacle? room b
  | _, .back .. => none

def obstacleOfItems? : Nat → List Value → Option Misuse
  | _, [] => none
  | 0, _ :: _ => some .tooDeep
  | room + 1, v :: rest => (obstacle? room v).or (obstacleOfItems? (room + 1) rest)

def obstacleOfEntries? : Nat → List (Scalar × Value) → Option Misuse
  | _, [] => none
  | 0, _ :: _ => some .tooDeep
  | room + 1, (k, v) :: rest =>
    if k.isWritable then (obstacle? room v).or (obstacleOfEntries? (room + 1) rest)
    else some .tooLong

end

def unshown? [Limits] (v : Value) : Option Misuse := v.obstacle? Limits.shown

theorem unshown?_scalar [Limits] (s : Scalar) :
    (Value.scalar s).unshown? = if s.isWritable then none else some .tooLong := by
  rw [unshown?, obstacle?]

def plain : Value → Text
  | .scalar s => s.plain
  | v => v.shown

end Value

end SceneBook
