import SceneBook.Yaml.Block
import SceneBook.Yaml.Plain
import SceneBook.Yaml.Quoted
import SceneBook.Yaml.Tag

/-!
# Tokens of a text

A text is cut into tokens from left to right. Whether something is the key of a mapping shows only
at the colon after it; so the places where a key may have started are remembered, and the tokens
that open the mapping are put in there later.
-/

namespace SceneBook.Yaml

/-- A place where a key may have started. One that stands at the indentation of its block has to
turn out to be a key. -/
structure KeySite where
  token : Nat
  required : Bool
  index : Nat
  line : Nat
  column : Nat

/-- The tokens found so far, last one first, how many they are, and what the next ones depend
on. -/
structure Lexer where
  place : Cursor
  found : List Token
  count : Nat
  depth : Nat
  indent : Int
  outer : List Int
  keyAllowed : Bool
  /-- At most one place for each depth of flow collections. -/
  sites : List (Nat × KeySite)
  ended : Bool

namespace Lexer

def start (cs : List Char) : Lexer :=
  ⟨.start cs, [], 0, 0, -1, [], true, [], false⟩

def inFlow (l : Lexer) : Bool := l.depth ≠ 0

def add (l : Lexer) (t : Token) : Lexer := { l with found := t :: l.found, count := l.count + 1 }

/-- Puts a token before all but the first `n` tokens. -/
def insert (l : Lexer) (n : Nat) (t : Token) : Lexer :=
  let later := l.count - n
  { l with found := l.found.take later ++ t :: l.found.drop later, count := l.count + 1 }

/-- Past spaces, comments and line breaks. In a block, a key may start after a line break. -/
def toNext : Nat → Lexer → Lexer
  | 0, l => l
  | fuel + 1, l =>
    let c := l.place.dropSpaces.dropComment
    match c.lineBreak? with
    | none => { l with place := c }
    | some (_, c) => toNext fuel { l with place := c, keyAllowed := l.keyAllowed || !l.inFlow }

def isStale (c : Cursor) (s : KeySite) : Bool := s.line ≠ c.line || s.index + 1024 < c.index

/-- Forgets the places that are on another line or too far back. -/
def dropStale (l : Lexer) : Except Fault Lexer :=
  if l.sites.any fun s => s.2.required && isStale l.place s.2 then .error .malformed
  else .ok { l with sites := l.sites.filter fun s => !isStale l.place s.2 }

def site? (l : Lexer) : Option KeySite := l.sites.lookup l.depth

def forgetSite (l : Lexer) : Lexer := { l with sites := l.sites.filter fun s => s.1 ≠ l.depth }

/-- Gives up the place at this depth; one that has to be a key cannot be given up. -/
def dropSite (l : Lexer) : Except Fault Lexer :=
  if l.site?.any KeySite.required then .error .malformed else .ok l.forgetSite

def saveSite (l : Lexer) : Except Fault Lexer :=
  if !l.keyAllowed then .ok l
  else do
    let l ← l.dropSite
    let c := l.place
    let s : KeySite :=
      ⟨l.count, !l.inFlow && l.indent = (c.column : Int), c.index, c.line, c.column⟩
    .ok { l with sites := (l.depth, s) :: l.sites }

def closeBlocks (column : Int) (l : Lexer) : List Int → Lexer
  | [] => { l with outer := [] }
  | i :: rest =>
    if column < l.indent then closeBlocks column { l.add .blockEnd with indent := i } rest
    else { l with outer := i :: rest }

def unwind (l : Lexer) (column : Int) : Lexer :=
  if l.inFlow then l else closeBlocks column l l.outer

def opens (l : Lexer) (column : Nat) : Bool := l.indent < (column : Int)

def openBlock (l : Lexer) (column : Nat) : Lexer :=
  { l with indent := column, outer := l.indent :: l.outer }

def endText (l : Lexer) : Except Fault Lexer := do
  let l ← (l.unwind (-1)).dropSite
  .ok { l.add .textEnd with ended := true }

def addDirective (l : Lexer) : Except Fault Lexer := do
  let l ← (l.unwind (-1)).dropSite
  let (t, c) ← l.place.directiveToken
  .ok { l.add t with place := c, keyAllowed := false }

def addMark (l : Lexer) (t : Token) : Except Fault Lexer := do
  let l ← (l.unwind (-1)).dropSite
  .ok { l.add t with place := l.place.advance 3, keyAllowed := false }

def openFlow (l : Lexer) (t : Token) : Except Fault Lexer := do
  let l ← l.saveSite
  .ok { l.add t with place := l.place.step, depth := l.depth + 1, keyAllowed := true }

def closeFlow (l : Lexer) (t : Token) : Except Fault Lexer := do
  let l ← l.dropSite
  if l.depth = 0 then .error .malformed
  else .ok { l.add t with place := l.place.step, depth := l.depth - 1, keyAllowed := false }

def addComma (l : Lexer) : Except Fault Lexer := do
  let l ← l.dropSite
  .ok { l.add .comma with place := l.place.step, keyAllowed := true }

/-- In a block, a mark may open a block at its column, if a key may start there. -/
def openFor (l : Lexer) (t : Token) : Except Fault Lexer :=
  if l.inFlow then .ok l
  else if !l.keyAllowed then .error .malformed
  else if l.opens l.place.column then .ok ((l.openBlock l.place.column).add t)
  else .ok l

def addEntry (l : Lexer) : Except Fault Lexer := do
  let l ← l.openFor .sequenceStart
  let l ← l.dropSite
  .ok { l.add .entry with place := l.place.step, keyAllowed := true }

def addKey (l : Lexer) : Except Fault Lexer := do
  let l ← l.openFor .mappingStart
  let l ← l.dropSite
  .ok { l.add .key with place := l.place.step, keyAllowed := !l.inFlow }

/-- A colon after a remembered place makes a key of what starts there. -/
def addValue (l : Lexer) : Except Fault Lexer :=
  match l.site? with
  | some s =>
    let l := (l.forgetSite).insert s.token .key
    let l := if !l.inFlow && l.opens s.column then
      (l.openBlock s.column).insert s.token .mappingStart else l
    .ok { l.add .value with place := l.place.step, keyAllowed := false }
  | none => do
    let l ← l.openFor .mappingStart
    let l ← l.dropSite
    .ok { l.add .value with place := l.place.step, keyAllowed := !l.inFlow }

def addNode (l : Lexer) (read : Cursor → Except Fault (Token × Cursor)) : Except Fault Lexer := do
  let l ← l.saveSite
  let (t, c) ← read l.place
  .ok { l.add t with place := c, keyAllowed := false }

def addPlain (l : Lexer) : Except Fault Lexer := do
  let l ← l.saveSite
  let p := l.place.plain l.inFlow l.indent
  .ok { l.add (.scalar p.text true) with place := p.after, keyAllowed := p.brokeLine }

def addBlock (l : Lexer) (folded : Bool) : Except Fault Lexer := do
  let l ← l.dropSite
  let (t, c) ← l.place.block folded l.indent
  .ok { l.add (.scalar t false) with place := c, keyAllowed := true }

def quotedToken (double : Bool) (c : Cursor) : Except Fault (Token × Cursor) :=
  (c.quoted double).map fun r => (.scalar r.1 false, r.2)

def anchorToken (make : List Char → Token) (c : Cursor) : Except Fault (Token × Cursor) :=
  c.anchorName.map fun r => (make r.1, r.2)

/-- Whether a plain scalar may start with a character, given the one after it. -/
def startsPlain (inFlow : Bool) (c : Char) (next : Option Char) : Bool :=
  let marks := "-?:,[]\x7b\x7d#&*!|>'\"%@\x60".toList
  !(isGap (some c) || marks.contains c) ||
    (!isGap next && (c = '-' || (!inFlow && (c = '?' || c = ':'))))

def addAt (l : Lexer) (ch : Char) : Except Fault Lexer :=
  let next := l.place.peek 1
  let column := l.place.column
  if ch = '%' && column = 0 then l.addDirective
  else if column = 0 && l.place.atMark '-' then l.addMark .documentStart
  else if column = 0 && l.place.atMark '.' then l.addMark .documentEnd
  else if ch = '[' then l.openFlow .openBracket
  else if ch = '\x7b' then l.openFlow .openBrace
  else if ch = ']' then l.closeFlow .closeBracket
  else if ch = '\x7d' then l.closeFlow .closeBrace
  else if ch = ',' then l.addComma
  else if ch = '-' && isGap next then l.addEntry
  else if ch = '?' && (l.inFlow || isGap next) then l.addKey
  else if ch = ':' && (l.inFlow || isGap next) then l.addValue
  else if ch = '*' then l.addNode (anchorToken .reference)
  else if ch = '&' then l.addNode (anchorToken .anchor)
  else if ch = '!' then l.addNode Cursor.tagToken
  else if ch = '|' && !l.inFlow then l.addBlock false
  else if ch = '>' && !l.inFlow then l.addBlock true
  else if ch = '\'' then l.addNode (quotedToken false)
  else if ch = '"' then l.addNode (quotedToken true)
  else if startsPlain l.inFlow ch next then l.addPlain
  else .error .malformed

/-- Adds the next token; the fuel is for the line breaks in front of it. -/
def next (fuel : Nat) (l : Lexer) : Except Fault Lexer := do
  let l ← (l.toNext fuel).dropStale
  let l := l.unwind l.place.column
  match l.place.rest with
  | [] => l.endText
  | ch :: _ => l.addAt ch

/-- The tokens in their order up to the first that still waits for a colon, since tokens may be put
in before it. A reader of the tokens comes no further before the next token is asked for. -/
def settled (l : Lexer) : List Token :=
  let waiting := (l.sites.filter fun s => !isStale l.place s.2).map fun s => s.2.token
  (l.found.drop (l.count - waiting.foldl min l.count)).reverse

/-- The tokens up to the end of the text, or those that come before a fault. A step passes at least
one character, apart from the last, so that the fuel also lasts for all line breaks ahead. -/
def run : Nat → Lexer → List Token × Fault
  | 0, l => (l.settled, .malformed)
  | fuel + 1, l =>
    if l.ended then (l.found.reverse, .malformed)
    else match l.next (fuel + 1) with
      | .ok l' => run fuel l'
      | .error f => (l.settled, f)

end Lexer

/-- The tokens of a text, and the fault that is met where they end before the text does. A byte
order mark at the very start is passed over. -/
def tokens (cs : List Char) : List Token × Fault :=
  let l := Lexer.start cs
  let l := if cs.head? = some '\uFEFF' then { l with place := l.place.step } else l
  Lexer.run (2 * cs.length + 4) l

end SceneBook.Yaml
