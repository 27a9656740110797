import SceneBook.Text.Hex
import SceneBook.Yaml.Cursor

/-!
# Quoted scalars

Scalars between single or double quotes. A line break inside counts as a space, and only the line
breaks after the first are kept; double quotes know escapes.
-/

namespace SceneBook.Yaml

def simpleEscape? (c : Char) : Option Char :=
  match c with
  | '0' => some '\x00'
  | 'a' => some '\x07'
  | 'b' => some '\x08'
  | 't' => some '\t'
  | '\t' => some '\t'
  | 'n' => some '\n'
  | 'v' => some '\x0b'
  | 'f' => some '\x0c'
  | 'r' => some '\r'
  | 'e' => some '\x1b'
  | ' ' => some ' '
  | '"' => some '"'
  | '\\' => some '\\'
  | '/' => some '/'
  | 'N' => some '\x85'
  | '_' => some '\u00a0'
  | 'L' => some '\u2028'
  | 'P' => some '\u2029'
  | _ => none

def numberWidth? (c : Char) : Option Nat :=
  match c with
  | 'x' => some 2
  | 'u' => some 4
  | 'U' => some 8
  | _ => none

def hexNumber? (width : Nat) (cs : List Char) : Option Nat :=
  let ds := cs.take width
  if ds.length < width then none
  else ds.foldl (fun n? c => do
    let n ← n?
    let d ← Text.hexValue? c
    pure (n * 16 + d)) (some 0)

def numbered (n : Nat) : Except Fault CodePoint :=
  match CodePoint.ofNat? n with
  | some c => .ok c
  | none => .error (.literal (if n ≤ 0x7FFFFFFF then .noSuchValue else .tooLarge))

namespace Cursor

/-- The line breaks ahead and the spaces around them. A mark between documents must not stand at
the start of a line. -/
def foldedBreaks : Nat → Cursor → Except Fault (Text × Cursor)
  | 0, c => .ok ([], c)
  | fuel + 1, c =>
    if c.atDocumentMark then .error .malformed
    else
      let c := c.dropWhile isSpaceOrTab
      match c.lineBreak? with
      | none => .ok ([], c)
      | some (b, c) => do
        let (more, c) ← foldedBreaks fuel c
        .ok (.scalar b :: more, c)

/-- What the first line break of some comes to, before the others. -/
def foldFirst (first : Char) (others : Text) : Text :=
  if first ≠ '\n' then .scalar first :: others
  else if others.isEmpty then [.scalar ' ']
  else others

def quotedGap (fuel : Nat) (c : Cursor) : Except Fault (Text × Cursor) :=
  let (spaces, c) := c.takeWhile isSpaceOrTab
  match c.rest with
  | [] => .error .malformed
  | _ :: _ =>
    match c.lineBreak? with
    | none => .ok (Text.ofChars spaces, c)
    | some (b, c) => do
      let (others, c) ← foldedBreaks fuel c
      .ok (foldFirst b others, c)

/-- The escape after a backslash; an escaped line break joins the lines around it. -/
def escape (fuel : Nat) (c : Cursor) : Except Fault (Text × Cursor) :=
  match c.rest with
  | [] => .error .malformed
  | ch :: rest =>
    match simpleEscape? ch with
    | some r => .ok ([.scalar r], c.step)
    | none =>
      match numberWidth? ch with
      | some width =>
        match hexNumber? width rest with
        | none => .error .malformed
        | some n => do
          let p ← numbered n
          .ok ([p], c.advance (width + 1))
      | none =>
        match c.lineBreak? with
        | none => .error .malformed
        | some (_, c) => foldedBreaks fuel c

/-- The rest of a scalar after its opening quote, and the place after the closing one. -/
def quotedBody (double : Bool) : Nat → Cursor → Except Fault (Text × Cursor)
  | 0, _ => .error .malformed
  | fuel + 1, c =>
    let more (here : Text × Cursor) : Except Fault (Text × Cursor) := do
      let (later, c) ← quotedBody double fuel here.2
      .ok (here.1 ++ later, c)
    match c.rest with
    | [] => .error .malformed
    | ch :: rest =>
      if isBreak ch || isSpaceOrTab ch then do
        let gap ← c.quotedGap fuel
        more gap
      else if double && ch = '\\' then do
        let e ← c.step.escape fuel
        more e
      else if double && ch = '"' then .ok ([], c.step)
      else if !double && ch = '\'' then
        if rest.head? = some '\'' then more ([.scalar '\''], c.advance 2) else .ok ([], c.step)
      else more ([.scalar ch], c.step)

def quoted (double : Bool) (c : Cursor) : Except Fault (Text × Cursor) :=
  quotedBody double (c.rest.length + 1) c.step

end Cursor

end SceneBook.Yaml
