import SceneBook.Text.Bytes
import SceneBook.Text.Hex
import SceneBook.Yaml.Cursor
import SceneBook.Yaml.Token

/-!
# Anchors, tags and directives

The pieces of a YAML text that start with an ampersand, a star, an exclamation mark or a percent
sign.
-/

namespace SceneBook.Yaml.Cursor

def endsAnchor (o : Option Char) : Bool :=
  isGap o || o.any fun c => "?:,]\x7d%@".toList.contains c || c = '\x60'

def anchorName (c : Cursor) : Except Fault (List Char × Cursor) :=
  let (name, c) := c.step.takeWhile isNameChar
  if name.isEmpty || !endsAnchor (c.peek 0) then .error .malformed else .ok (name, c)

def isUriChar (c : Char) : Bool :=
  isNameChar c || ";/?:@&=+$,.!~*'()[]%".toList.contains c

def uriByte (a b : Char) : Option Nat := do
  let hi ← Text.hexValue? a
  let lo ← Text.hexValue? b
  pure (hi * 16 + lo)

/-- A tag with its escaped bytes resolved. Those of a run of escapes, collected last one first,
have to be the bytes of characters. -/
def unescapeUri (run : List Nat) : List Char → Option (List Char)
  | [] => Text.chars? run.reverse
  | '%' :: a :: b :: rest => do
    let n ← uriByte a b
    unescapeUri (n :: run) rest
  | c :: rest =>
    if c = '%' then none
    else do
      let here ← Text.chars? run.reverse
      let later ← unescapeUri [] rest
      pure (here ++ c :: later)

def tagUri (c : Cursor) : Except Fault (List Char × Cursor) :=
  let (raw, c) := c.takeWhile isUriChar
  match unescapeUri [] raw with
  | some (x :: xs) => .ok (x :: xs, c)
  | _ => .error .malformed

def tagHandle (c : Cursor) : Except Fault (List Char × Cursor) :=
  if c.peek 0 ≠ some '!' then .error .malformed
  else if c.peek 1 = some ' ' then .ok (['!'], c.step)
  else
    let (name, after) := c.step.takeWhile isNameChar
    if after.peek 0 = some '!' then .ok ('!' :: name ++ ['!'], after.step) else .error .malformed

/-- Whether a second exclamation mark stands before the next gap, tabs not counted. -/
def hasHandle : List Char → Bool
  | [] => false
  | c :: rest => if isBreak c || c = ' ' then false else c = '!' || hasHandle rest

def tagBody (c : Cursor) : Except Fault (Token × Cursor) :=
  if c.peek 1 = some '<' then do
    let (uri, c) ← (c.advance 2).tagUri
    if c.peek 0 = some '>' then .ok (.tag none uri, c.step) else .error .malformed
  else if isGap (c.peek 1) then .ok (.tag none ['!'], c.step)
  else if hasHandle (c.rest.drop 1) then do
    let (handle, c) ← c.tagHandle
    let (uri, c) ← c.tagUri
    .ok (.tag (some handle) uri, c)
  else do
    let (uri, c) ← c.step.tagUri
    .ok (.tag (some ['!']) uri, c)

def tagToken (c : Cursor) : Except Fault (Token × Cursor) := do
  let (t, c) ← c.tagBody
  if isSpaceOrEnd (c.peek 0) then .ok (t, c) else .error .malformed

def decimal (ds : List Char) : Nat := ds.foldl (fun n c => 10 * n + (c.toNat - '0'.toNat)) 0

def number (c : Cursor) : Except Fault (Nat × Cursor) :=
  let (ds, c) := c.takeWhile Char.isDigit
  if ds.isEmpty then .error .malformed else .ok (decimal ds, c)

def versionToken (c : Cursor) : Except Fault (Token × Cursor) := do
  let (major, c) ← c.dropSpaces.number
  if c.peek 0 ≠ some '.' then .error .malformed
  else
    let (_, c) ← c.step.number
    if isSpaceOrEnd (c.peek 0) then .ok (.version major, c) else .error .malformed

def handleToken (c : Cursor) : Except Fault (Token × Cursor) := do
  let (name, c) ← c.dropSpaces.tagHandle
  if c.peek 0 ≠ some ' ' then .error .malformed
  else
    let (expansion, c) ← c.dropSpaces.tagUri
    if isSpaceOrEnd (c.peek 0) then .ok (.handle name expansion, c) else .error .malformed

def directiveToken (c : Cursor) : Except Fault (Token × Cursor) := do
  let (name, c) := c.step.takeWhile isNameChar
  if name.isEmpty || !isSpaceOrEnd (c.peek 0) then .error .malformed
  else
    let (t, c) ←
      if name = "YAML".toList then c.versionToken
      else if name = "TAG".toList then c.handleToken
      else .ok (.directive, c.dropWhile fun ch => !isBreak ch)
    let c := c.dropSpaces.dropComment
    if isLineEnd (c.peek 0) then .ok (t, (c.lineBreak?.map Prod.snd).getD c) else .error .malformed

end SceneBook.Yaml.Cursor
