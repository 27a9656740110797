import SceneBook.Yaml.Assembly
import SceneBook.Yaml.Structure

/-!
# YAML documents

The value of a YAML text. A text holds at most one document, and none counts as null.
-/

namespace SceneBook.Yaml

def lineFeeds : List Char → List Char
  | [] => []
  | '\r' :: '\n' :: rest => '\n' :: lineFeeds rest
  | c :: rest => (if c = '\r' then '\n' else c) :: lineFeeds rest

/-- Control characters and the like must not stand in a text at all. -/
def isAllowed (c : Char) : Bool :=
  c = '\t' || c = '\n' || c = '\r' || (' ' ≤ c && c ≤ '~') || c = '\x85' ||
    ('\u00a0' ≤ c && c ≤ '\uFFFD') || 0x10000 ≤ c.toNat

def graph (cs : List Char) : Except Fault (Graph × Nat) :=
  let (ts, fault) := tokens cs
  Reader.document (.start ts fault)

/-- A text is read in pieces, the first of two and the others of one of this size. -/
def pieceSize : Nat := 4096

def pieceStart (place : Nat) : Nat :=
  if place < 2 * pieceSize then 0 else place / pieceSize * pieceSize

/-- What a text comes to that holds a character it must not hold: a fault in the pieces before that
character is met first. -/
def faultBefore (place : Nat) (cs : List Char) : Fault :=
  match graph (cs.take (pieceStart place)) with
  | .error f => f
  | .ok _ => .malformed

def read (cs : List Char) : Except Fault Value := do
  let cs := lineFeeds cs
  match cs.findIdx? fun c => !isAllowed c with
  | some place => .error (faultBefore place cs)
  | none =>
    let (g, id) ← graph cs
    g.value id

end SceneBook.Yaml
