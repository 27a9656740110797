import SceneBook.Text.CodePoint
import SceneBook.Yaml.Cursor

/-!
# Plain scalars

Scalars without quotes. They end at a comment, at a colon before a gap, at the punctuation of a
flow collection, and where a line is indented too little.
-/

namespace SceneBook.Yaml

def isFlowMark (c : Char) : Bool := c = ',' || c = '[' || c = ']' || c = '\x7b' || c = '\x7d'

def stopsPlain (inFlow : Bool) : List Char → Bool
  | [] => true
  | c :: rest =>
    isGap (some c) ||
      (c = ':' && (isGap rest.head? || (inFlow && rest.head?.any isFlowMark))) ||
      (inFlow && (c = '?' || isFlowMark c))

def plainRun (inFlow : Bool) : List Char → List Char
  | [] => []
  | c :: rest => if stopsPlain inFlow (c :: rest) then [] else c :: plainRun inFlow rest

structure PlainEnd where
  text : Text
  after : Cursor
  brokeLine : Bool

namespace Cursor

/-- The line breaks ahead with the spaces around them. None when a mark between documents starts
a line. -/
def plainBreaks : Nat → Cursor → Option Text × Cursor
  | 0, c => (some [], c)
  | fuel + 1, c =>
    if c.atDocumentMark then (none, c)
    else
      let c := c.dropSpaces
      match c.lineBreak? with
      | none => (some [], c)
      | some (b, c) =>
        let (more, c) := plainBreaks fuel c
        (more.map (.scalar b :: ·), c)

/-- What stands between two parts of a plain scalar: the text it comes to, empty where the scalar
ends, and whether it breaks the line. -/
def plainGap (fuel : Nat) (c : Cursor) : Text × Bool × Cursor :=
  let (spaces, c) := c.takeWhile fun ch => ch = ' '
  match c.lineBreak? with
  | none => (Text.ofChars spaces, false, c)
  | some (b, c) =>
    match plainBreaks fuel c with
    | (none, c) => ([], true, c)
    | (some others, c) =>
      let text : Text :=
        if b ≠ '\n' then .scalar b :: others else if others.isEmpty then [.scalar ' '] else others
      (text, true, c)

def plainParts (inFlow : Bool) (indent : Int) : Nat → Cursor → PlainEnd
  | 0, c => ⟨[], c, false⟩
  | fuel + 1, c =>
    let run := plainRun inFlow c.rest
    if c.peek 0 = some '#' || run.isEmpty then ⟨[], c, false⟩
    else
      let here := Text.ofChars run
      let (gap, broke, next) := (c.advance run.length).plainGap fuel
      if gap.isEmpty || next.peek 0 = some '#' || (!inFlow && (next.column : Int) < indent) then
        ⟨here, next, broke⟩
      else
        let later := plainParts inFlow indent fuel next
        if later.text.isEmpty then ⟨here, later.after, broke⟩
        else ⟨here ++ gap ++ later.text, later.after, later.brokeLine⟩

def plain (inFlow : Bool) (indent : Int) (c : Cursor) : PlainEnd :=
  plainParts inFlow (indent + 1) (c.rest.length + 1) c

end Cursor

end SceneBook.Yaml
