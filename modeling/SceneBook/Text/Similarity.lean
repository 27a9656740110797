import SceneBook.Number.Double
import SceneBook.Text.Blank

/-!
# Similarity of texts

A score from 0 to 100 for how alike two texts are. It rests on the longest common subsequence,
and looks at the texts as they are, at parts of the longer one, and at their words in any order.
-/

namespace SceneBook

abbrev Score := Double

namespace Score

def zero : Score := Double.ofRatio false 0 1

def hundred : Score := Double.ofRatio false 100 1

/-- The greater of two scores; scores have no sign, so their bits are in the order of scores. -/
def max (a b : Score) : Score := if a.bits < b.bits then b else a

def best (ss : List Score) : Score := ss.foldl max zero

/-- A hundredfold of the share that is left when `distance` of `total` is lost. -/
def ofDistance (distance total : Nat) : Score :=
  if total = 0 then hundred
  else
    Double.mul hundred
      (Double.sub (Double.ofRatio false 1 1) (Double.ofRatio false distance total))

/-- A hundred less the percentage that is lost. It differs from `ofDistance` in its rounding. -/
def ofLoss (lost total : Nat) : Score :=
  if total = 0 then hundred else Double.sub hundred (Double.ofRatio false (100 * lost) total)

end Score

namespace Text

/-- One row of the table of common subsequences: `above` is the row before it, and `left` and
`corner` are the entries before this one in either row. -/
def commonRow (c : CodePoint) : Nat → Nat → Text → List Nat → List Nat
  | left, corner, b :: bs, up :: above =>
    let here := if c = b then corner + 1 else Nat.max left up
    here :: commonRow c here up bs above
  | _, _, _, _ => []

def commonLength (a b : Text) : Nat :=
  let last := a.foldl (fun above c => commonRow c 0 0 b above) (List.replicate b.length 0)
  last.getLast?.getD 0

/-- How many characters have to be taken out and put in to turn one text into the other. -/
def distance (a b : Text) : Nat := a.length + b.length - 2 * commonLength a b

def ratio (a b : Text) : Score := Score.ofDistance (distance a b) (a.length + b.length)

/-- The windows of a length in a text, and the shorter ones that touch an end of it. -/
def windows (size : Nat) (t : Text) : List Text :=
  (List.range (t.length - size + 1)).map (fun i => (t.drop i).take size) ++
    (List.range (size - 1)).flatMap fun i => [t.take (i + 1), t.drop (t.length - (i + 1))]

def windowRatio (short long : Text) : Score :=
  Score.best ((windows short.length long).map (ratio short))

/-- The best ratio of the shorter text against a part of the longer one. -/
def partialRatio (a b : Text) : Score :=
  if a.isEmpty || b.isEmpty then (if a.isEmpty && b.isEmpty then Score.hundred else Score.zero)
  else if a.length < b.length then windowRatio a b
  else if b.length < a.length then windowRatio b a
  else Score.max (windowRatio a b) (windowRatio b a)

def joinWords (ws : List Text) : Text := join " " ws

def sortedWords (t : Text) : List Text := sort t.words

def distinctWords (t : Text) : List Text := (sortedWords t).eraseDups

def sharedWords (a b : Text) : List Text :=
  (distinctWords a).filter fun w => (distinctWords b).contains w

/-- The distinct words of the first text that are not in the second. -/
def ownWords (a b : Text) : List Text :=
  (distinctWords a).filter fun w => !(distinctWords b).contains w

def wordSetRatio (a b : Text) : Score :=
  let shared := sharedWords a b
  let own := ownWords a b
  let other := ownWords b a
  if a.words.isEmpty || b.words.isEmpty then Score.zero
  else if !shared.isEmpty && (own.isEmpty || other.isEmpty) then Score.hundred
  else
    let sharedSize := (joinWords shared).length
    let gap := if shared.isEmpty then 0 else 1
    let ownSize := (joinWords own).length
    let otherSize := (joinWords other).length
    let left := sharedSize + gap + ownSize
    let right := sharedSize + gap + otherSize
    let apart := Score.ofLoss (distance (joinWords own) (joinWords other)) (left + right)
    if shared.isEmpty then apart
    else Score.best [apart, Score.ofLoss (1 + ownSize) (sharedSize + left),
      Score.ofLoss (1 + otherSize) (sharedSize + right)]

def wordRatio (a b : Text) : Score :=
  Score.max (ratio (joinWords (sortedWords a)) (joinWords (sortedWords b))) (wordSetRatio a b)

def partialWordRatio (a b : Text) : Score :=
  if !(sharedWords a b).isEmpty then Score.hundred
  else Score.max (partialRatio (joinWords (sortedWords a)) (joinWords (sortedWords b)))
    (partialRatio (joinWords (distinctWords a)) (joinWords (distinctWords b)))

/-- The score: texts of about one length are compared as wholes, others by parts, and then the
more the lengths differ the less a part counts. -/
def similarity (a b : Text) : Score :=
  let short := Nat.min a.length b.length
  let long := Nat.max a.length b.length
  let words := Double.ofRatio false 95 100
  if short = 0 then Score.zero
  else if 2 * long < 3 * short then Score.max (ratio a b) (Double.mul words (wordRatio a b))
  else
    let parts := if long ≤ 8 * short then Double.ofRatio false 9 10 else Double.ofRatio false 6 10
    Score.best [ratio a b, Double.mul parts (partialRatio a b),
      Double.mul (Double.mul (partialWordRatio a b) words) parts]

/-- The first of the candidates that score highest, unless even that one scores less than
`least`. -/
def closest? (score : Text → Text → Score) (least : Score) (t : Text) :
    List Text → Option (Text × Score)
  | [] => none
  | c :: rest =>
    let here := score t c
    match closest? score least t rest with
    | some (d, s) => if here.bits < s.bits then some (d, s) else some (c, here)
    | none => if here.bits < least.bits then none else some (c, here)

end Text

end SceneBook
