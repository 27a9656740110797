import SceneBook.Yaml.Lexer
import SceneBook.Yaml.Node

/-!
# Nodes of tokens

Tokens are put together to the nodes of the one document of a text. An alias stands for the node
that carries its anchor, which it may be a part of; an anchor must not be used twice.
-/

namespace SceneBook.Yaml

/-- The tokens that remain, the fault that ended them, the handles, the anchors with the numbers of
their nodes, the nodes so far, and how many collections are open. -/
structure Reader where
  tokens : List Token
  fault : Fault
  handles : List (List Char × List Char)
  anchors : List (List Char × Nat)
  graph : Graph
  depth : Nat

structure Marks where
  anchor : Option (List Char)
  tag : Option (List Char)

namespace Marks

/-- The kind of a node: by its tag, unless that is the bare one, or else the one it is without. -/
def kindOr (m : Marks) (k : Kind) : Kind :=
  match m.tag with
  | none | some ['!'] => k
  | some t => Kind.ofTag t

/-- A scalar is of the kind it looks like when it is plain or has the bare tag. -/
def scalarKind (m : Marks) (text : Text) (plain : Bool) : Kind :=
  m.kindOr (if plain || m.tag = some ['!'] then Kind.ofLook text else .text)

end Marks

namespace Reader

def standardHandles : List (List Char × List Char) :=
  [("!".toList, "!".toList), ("!!".toList, "tag:yaml.org,2002:".toList)]

/-- Collections inside each other are read down to this depth, as measured on a stack of a thousand
frames. -/
def deepest : Nat := 489

def start (ts : List Token) (fault : Fault) : Reader := ⟨ts, fault, standardHandles, [], .empty, 0⟩

def drop (r : Reader) : Reader := { r with tokens := r.tokens.tail }

def enter (r : Reader) : Reader := { r with depth := r.depth + 1 }

def leave (r : Reader) : Reader := { r with depth := r.depth - 1 }

def next (r : Reader) : Except Fault Token :=
  match r.tokens with
  | t :: _ => .ok t
  | [] => .error r.fault

def at? (r : Reader) (ts : List Token) : Except Fault Bool := r.next.map ts.contains

def take (r : Reader) (t : Token) : Except Fault Reader := do
  if (← r.next) = t then .ok r.drop else .error .malformed

def expand (r : Reader) (handle : Option (List Char)) (suffix : List Char) :
    Except Fault (List Char) :=
  match handle with
  | none => .ok suffix
  | some h =>
    match r.handles.lookup h with
    | some expansion => .ok (expansion ++ suffix)
    | none => .error .malformed

/-- An anchor and a tag before a node, in either order. After the first of them the next token is
looked at before the handle of a tag is. -/
def marks (r : Reader) : Except Fault (Marks × Reader) := do
  match r.tokens with
  | .anchor a :: rest =>
    let r := { r with tokens := rest }
    match ← r.next with
    | .tag h s => .ok (⟨some a, some (← r.expand h s)⟩, r.drop)
    | _ => .ok (⟨some a, none⟩, r)
  | .tag h s :: rest =>
    let r := { r with tokens := rest }
    match ← r.next with
    | .anchor a => .ok (⟨some a, some (← r.expand h s)⟩, r.drop)
    | _ => .ok (⟨none, some (← r.expand h s)⟩, r)
  | _ => .ok (⟨none, none⟩, r)

/-- Adds a node under its anchor, which must be new. -/
def add (r : Reader) (anchor : Option (List Char)) (n : Node) : Except Fault (Nat × Reader) :=
  let (graph, id) := r.graph.add n
  match anchor with
  | none => .ok (id, { r with graph })
  | some a =>
    if (r.anchors.lookup a).isSome then .error .malformed
    else .ok (id, { r with graph, anchors := (a, id) :: r.anchors })

def addScalar (r : Reader) (m : Marks) (text : Text) (plain : Bool) :
    Except Fault (Nat × Reader) :=
  r.add m.anchor ⟨m.scalarKind text plain, .scalar text⟩

def addEmpty (r : Reader) : Except Fault (Nat × Reader) := r.addScalar ⟨none, none⟩ [] true

def addBlank (r : Reader) (m : Marks) : Except Fault (Nat × Reader) :=
  if m.anchor.isNone && m.tag.isNone then .error .malformed
  else r.add m.anchor ⟨m.kindOr (Kind.ofLook []), .scalar []⟩

def collect {α : Type} (r : Reader) (anchor : Option (List Char)) (k : Kind)
    (make : List α → Content) (read : Reader → Except Fault (List α × Reader)) :
    Except Fault (Nat × Reader) := do
  let (id, r) ← r.add anchor ⟨k, make []⟩
  let (parts, r) ← read r.enter
  .ok (id, { r.leave with graph := r.graph.fill id (make parts) })

structure Place where
  inBlock : Bool
  /-- A sequence may start without an indentation of its own. -/
  bareEntries : Bool

def flowPlace : Place := ⟨false, false⟩

def blockPlace : Place := ⟨true, false⟩

def valuePlace : Place := ⟨true, true⟩

mutual

def node : Nat → Place → Reader → Except Fault (Nat × Reader)
  | 0, _, _ => .error .malformed
  | fuel + 1, p, r =>
    if deepest < r.depth then .error .tooDeep
    else match r.tokens with
      | .reference a :: rest =>
        match r.anchors.lookup a with
        | some id => .ok (id, { r with tokens := rest })
        | none => .error .malformed
      | _ => do
        let (m, r) ← r.marks
        content fuel p m r

def content : Nat → Place → Marks → Reader → Except Fault (Nat × Reader)
  | 0, _, _, _ => .error .malformed
  | fuel + 1, p, m, r => do
    match ← r.next with
    | .entry =>
      if !p.bareEntries then r.addBlank m
      else r.collect m.anchor (m.kindOr .sequence) .sequence (bareItems fuel)
    | .scalar t plain => r.drop.addScalar m t plain
    | .openBracket =>
      r.drop.collect m.anchor (m.kindOr .sequence) .sequence (flowItems fuel true)
    | .openBrace => r.drop.collect m.anchor (m.kindOr .mapping) .mapping (flowEntries fuel true)
    | .sequenceStart =>
      if !p.inBlock then r.addBlank m
      else r.drop.collect m.anchor (m.kindOr .sequence) .sequence (blockItems fuel)
    | .mappingStart =>
      if !p.inBlock then r.addBlank m
      else r.drop.collect m.anchor (m.kindOr .mapping) .mapping (blockEntries fuel)
    | _ => r.addBlank m

def nodeUnless : Nat → List Token → Place → Reader → Except Fault (Nat × Reader)
  | 0, _, _, _ => .error .malformed
  | fuel + 1, stops, p, r => do
    if ← r.at? stops then r.addEmpty else node fuel p r

def blockItems : Nat → Reader → Except Fault (List Nat × Reader)
  | 0, _ => .error .malformed
  | fuel + 1, r => do
    if ← r.at? [.entry] then
      let (n, r) ← nodeUnless fuel [.entry, .blockEnd] blockPlace r.drop
      let (ns, r) ← blockItems fuel r
      .ok (n :: ns, r)
    else
      let r ← r.take .blockEnd
      .ok ([], r)

def bareItems : Nat → Reader → Except Fault (List Nat × Reader)
  | 0, _ => .error .malformed
  | fuel + 1, r => do
    if ← r.at? [.entry] then
      let (n, r) ← nodeUnless fuel [.entry, .key, .value, .blockEnd] blockPlace r.drop
      let (ns, r) ← bareItems fuel r
      .ok (n :: ns, r)
    else .ok ([], r)

def entryValue : Nat → List Token → Place → Reader → Except Fault (Nat × Reader)
  | 0, _, _, _ => .error .malformed
  | fuel + 1, stops, p, r => do
    if ← r.at? [.value] then nodeUnless fuel stops p r.drop else r.addEmpty

def blockEntries : Nat → Reader → Except Fault (List (Nat × Nat) × Reader)
  | 0, _ => .error .malformed
  | fuel + 1, r => do
    if ← r.at? [.key] then
      let (k, r) ← nodeUnless fuel [.key, .value, .blockEnd] valuePlace r.drop
      let (v, r) ← entryValue fuel [.key, .value, .blockEnd] valuePlace r
      let (es, r) ← blockEntries fuel r
      .ok ((k, v) :: es, r)
    else
      let r ← r.take .blockEnd
      .ok ([], r)

/-- The one entry of a mapping that stands among the items of a flow sequence. -/
def flowPair : Nat → Reader → Except Fault (List (Nat × Nat) × Reader)
  | 0, _ => .error .malformed
  | fuel + 1, r => do
    let (k, r) ← nodeUnless fuel [.value, .comma, .closeBracket] flowPlace r
    let (v, r) ← entryValue fuel [.comma, .closeBracket] flowPlace r
    .ok ([(k, v)], r)

/-- The items of a flow sequence. A key among them makes a mapping of one entry. -/
def flowItems : Nat → Bool → Reader → Except Fault (List Nat × Reader)
  | 0, _, _ => .error .malformed
  | fuel + 1, first, r => do
    if ← r.at? [.closeBracket] then .ok ([], r.drop)
    else
      let r ← if first then .ok r else r.take .comma
      if ← r.at? [.closeBracket] then .ok ([], r.drop)
      else
        let (n, r) ←
          if ← r.at? [.key] then r.drop.collect none .mapping .mapping (flowPair fuel)
          else node fuel flowPlace r
        let (ns, r) ← flowItems fuel false r
        .ok (n :: ns, r)

def flowEntries : Nat → Bool → Reader → Except Fault (List (Nat × Nat) × Reader)
  | 0, _, _ => .error .malformed
  | fuel + 1, first, r => do
    if ← r.at? [.closeBrace] then .ok ([], r.drop)
    else
      let r ← if first then .ok r else r.take .comma
      if ← r.at? [.closeBrace] then .ok ([], r.drop)
      else if ← r.at? [.key] then
        let (k, r) ← nodeUnless fuel [.value, .comma, .closeBrace] flowPlace r.drop
        let (v, r) ← entryValue fuel [.comma, .closeBrace] flowPlace r
        let (es, r) ← flowEntries fuel false r
        .ok ((k, v) :: es, r)
      else
        let (k, r) ← node fuel flowPlace r
        let (v, r) ← r.addEmpty
        let (es, r) ← flowEntries fuel false r
        .ok ((k, v) :: es, r)

end

/-- The directives before a document. Of the version only the major number one is known. -/
def directives (r : Reader) (versioned : Bool) : List Token → Except Fault Reader
  | .version major :: rest =>
    if versioned || major ≠ 1 then .error .malformed
    else directives { r with tokens := rest } true rest
  | .handle name expansion :: rest =>
    if (r.handles.lookup name).isSome then .error .malformed
    else
      directives { r with tokens := rest, handles := (name, expansion) :: r.handles } versioned rest
  | .directive :: rest => directives { r with tokens := rest } versioned rest
  | ts => .ok { r with tokens := ts }

def head (r : Reader) : Except Fault Reader := do
  let r ← directives { r with handles := [] } false r.tokens
  let r ← r.take .documentStart
  .ok { r with handles := r.handles ++ standardHandles }

def isDirective : Token → Bool
  | .version _ | .handle .. | .directive => true
  | _ => false

def marked (fuel : Nat) (r : Reader) : Except Fault (Nat × Reader) := do
  let t ← r.next
  if isDirective t || t = .documentStart || t = .documentEnd || t = .textEnd then r.addEmpty
  else node fuel blockPlace r

/-- The text ends after a document: another one is refused as soon as it starts. -/
def close (r : Reader) : Except Fault Unit := do
  let r := { r with tokens := r.tokens.dropWhile fun t => t = Token.documentEnd }
  if (← r.next) = .textEnd then .ok ()
  else
    let _ ← r.head
    .error .malformed

/-- The nodes of the only document and the number of its node; a text without one has an empty
node. -/
def document (r : Reader) : Except Fault (Graph × Nat) := do
  let fuel := 8 * r.tokens.length + 16
  let t ← r.next
  let (id, r) ←
    if t = .textEnd then r.addEmpty
    else if isDirective t || t = .documentStart then do marked fuel (← r.head)
    else node fuel blockPlace r
  r.close
  .ok (r.graph, id)

end Reader

end SceneBook.Yaml
