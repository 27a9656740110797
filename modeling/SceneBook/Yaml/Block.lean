import SceneBook.Text.CodePoint
import SceneBook.Yaml.Cursor

/-!
# Block scalars

Scalars of whole lines, which are kept as they are or folded into paragraphs. A header says how
far the lines are indented and what becomes of the line breaks at the end.
-/

namespace SceneBook.Yaml

/-- What becomes of the line breaks at the end of a block scalar. -/
inductive Chomp
  | keep
  | clip
  | strip
  deriving DecidableEq

structure BlockHeader where
  chomp : Chomp
  indent : Option Nat

def chompOf? (c : Char) : Option Chomp :=
  match c with
  | '+' => some .keep
  | '-' => some .strip
  | _ => none

def digitOf? (c : Char) : Option Nat :=
  if '0' ≤ c && c ≤ '9' then some (c.toNat - '0'.toNat) else none

namespace Cursor

def headerMarks (c : Cursor) : Except Fault (BlockHeader × Cursor) :=
  match (c.peek 0).bind chompOf?, (c.peek 0).bind digitOf? with
  | some k, _ =>
    match (c.peek 1).bind digitOf? with
    | some 0 => .error .malformed
    | some n => .ok (⟨k, some n⟩, c.advance 2)
    | none => .ok (⟨k, none⟩, c.advance 1)
  | none, some 0 => .error .malformed
  | none, some n =>
    match (c.peek 1).bind chompOf? with
    | some k => .ok (⟨k, some n⟩, c.advance 2)
    | none => .ok (⟨.clip, some n⟩, c.advance 1)
  | none, none => .ok (⟨.clip, none⟩, c)

def blockHeader (c : Cursor) : Except Fault (BlockHeader × Cursor) := do
  let (h, c) ← c.headerMarks
  if !isSpaceOrEnd (c.peek 0) then .error .malformed
  else
    let c := c.dropSpaces.dropComment
    match c.lineBreak? with
    | some (_, c) => .ok (h, c)
    | none => if c.rest.isEmpty then .ok (h, c) else .error .malformed

/-- The blank lines ahead, and the widest indentation among them and the first other line. -/
def leadingBreaks : Nat → Nat → Cursor → Text × Nat × Cursor
  | 0, widest, c => ([], widest, c)
  | fuel + 1, widest, c =>
    let c := c.dropSpaces
    let widest := max widest c.column
    match c.lineBreak? with
    | none => ([], widest, c)
    | some (b, c) =>
      let (more, widest, c) := leadingBreaks fuel widest c
      (.scalar b :: more, widest, c)

def dropIndent (indent : Nat) (c : Cursor) : Cursor :=
  c.advance (min (c.rest.takeWhile fun ch => ch = ' ').length (indent - c.column))

/-- The blank lines ahead and the indentation of the line after them. -/
def blockBreaks (indent : Nat) : Nat → Cursor → Text × Cursor
  | 0, c => ([], c)
  | fuel + 1, c =>
    let c := c.dropIndent indent
    match c.lineBreak? with
    | none => ([], c)
    | some (b, c) =>
      let (more, c) := blockBreaks indent fuel c
      (.scalar b :: more, c)

def startsIndented (c : Cursor) : Bool := (c.peek 0).any isSpaceOrTab

def inBlock (indent : Nat) (c : Cursor) : Bool := c.column = indent && !c.rest.isEmpty

/-- The lines of a block scalar, where `pending` are the blank lines before this place. -/
def blockLines (folded : Bool) (chomp : Chomp) (indent : Nat) : Nat → Text → Cursor → Text × Cursor
  | 0, _, c => ([], c)
  | fuel + 1, pending, c =>
    let (line, after) := c.takeWhile fun ch => !isBreak ch
    let here := pending ++ Text.ofChars line
    let (first, next) : Text × Cursor := match after.lineBreak? with
      | some (b, n) => ([.scalar b], n)
      | none => ([], after)
    let (breaks, next) := blockBreaks indent next.rest.length next
    if next.inBlock indent then
      let folds := folded && first = [.scalar '\n'] && !c.startsIndented && !next.startsIndented
      let joint : Text :=
        if !folds then first else if breaks.isEmpty then [.scalar ' '] else []
      let (later, last) := blockLines folded chomp indent fuel breaks next
      (here ++ joint ++ later, last)
    else
      let tail : Text := match chomp with
        | .strip => []
        | .clip => first
        | .keep => first ++ breaks
      (here ++ tail, next)

/-- The block scalar that starts here, inside a block of the given indentation. -/
def block (folded : Bool) (parent : Int) (c : Cursor) : Except Fault (Text × Cursor) := do
  let (h, c) ← c.step.blockHeader
  let least := (parent + 1).toNat.max 1
  let fuel := c.rest.length + 1
  let (indent, pending, c) : Nat × Text × Cursor := match h.indent with
    | none =>
      let (breaks, widest, c) := leadingBreaks fuel 0 c
      (least.max widest, breaks, c)
    | some n =>
      let (breaks, c) := blockBreaks (least + n - 1) fuel c
      (least + n - 1, breaks, c)
  if c.inBlock indent then .ok (blockLines folded h.chomp indent fuel pending c)
  else .ok (if h.chomp = .keep then pending else [], c)

end Cursor

end SceneBook.Yaml
