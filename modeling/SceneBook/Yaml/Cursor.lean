import SceneBook.Yaml.Fault

/-!
# Cursors

A place in a YAML text: the characters ahead, and the line and column where they start. Carriage
returns have been turned into line feeds before; besides the line feed three characters break a
line.
-/

namespace SceneBook.Yaml

def isBreak (c : Char) : Bool := c = '\n' || c = '\x85' || c = '\u2028' || c = '\u2029'

def isSpaceOrTab (c : Char) : Bool := c = ' ' || c = '\t'

def isGap : Option Char → Bool
  | none => true
  | some c => isBreak c || isSpaceOrTab c

def isLineEnd : Option Char → Bool
  | none => true
  | some c => isBreak c

def isSpaceOrEnd : Option Char → Bool
  | none => true
  | some c => isBreak c || c = ' '

def isNameChar (c : Char) : Bool :=
  ('0' ≤ c && c ≤ '9') || ('A' ≤ c && c ≤ 'Z') || ('a' ≤ c && c ≤ 'z') || c = '-' || c = '_'

structure Cursor where
  rest : List Char
  index : Nat
  line : Nat
  column : Nat

namespace Cursor

def start (cs : List Char) : Cursor := ⟨cs, 0, 0, 0⟩

def peek (c : Cursor) (i : Nat) : Option Char := c.rest[i]?

/-- Past one character. A byte order mark takes no column. -/
def step (c : Cursor) : Cursor :=
  match c.rest with
  | [] => c
  | ch :: rest =>
    if isBreak ch then ⟨rest, c.index + 1, c.line + 1, 0⟩
    else ⟨rest, c.index + 1, c.line, if ch = '\uFEFF' then c.column else c.column + 1⟩

def advance : Nat → Cursor → Cursor
  | 0, c => c
  | n + 1, c => advance n c.step

def takeWhile (c : Cursor) (p : Char → Bool) : List Char × Cursor :=
  let taken := c.rest.takeWhile p
  (taken, c.advance taken.length)

def dropWhile (c : Cursor) (p : Char → Bool) : Cursor := (c.takeWhile p).2

def dropSpaces (c : Cursor) : Cursor := c.dropWhile fun ch => ch = ' '

def dropComment (c : Cursor) : Cursor :=
  if c.peek 0 = some '#' then c.dropWhile fun ch => !isBreak ch else c

/-- A line break as it counts in a scalar: the paragraph and line separators stay what they are. -/
def breakText (c : Char) : Char := if c = '\x85' then '\n' else c

def lineBreak? (c : Cursor) : Option (Char × Cursor) :=
  match c.rest with
  | ch :: _ => if isBreak ch then some (breakText ch, c.step) else none
  | [] => none

/-- Whether a line that starts here is a mark between documents. -/
def atMark (mark : Char) (c : Cursor) : Bool :=
  c.rest.take 3 = [mark, mark, mark] && isGap (c.peek 3)

def atDocumentMark (c : Cursor) : Bool := c.atMark '-' || c.atMark '.'

end Cursor

end SceneBook.Yaml
