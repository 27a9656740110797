import SceneBook.Yaml.Kind

/-!
# Nodes

The nodes of a YAML text before they become values. They refer to their parts by number, so that
an alias is one more reference to a node, and a node may be a part of itself.
-/

namespace SceneBook.Yaml

inductive Content
  | scalar (text : Text)
  | sequence (items : List Nat)
  | mapping (entries : List (Nat × Nat))
  deriving DecidableEq

structure Node where
  kind : Kind
  content : Content
  deriving DecidableEq

structure Graph where
  nodes : Array Node
  deriving DecidableEq

namespace Graph

def empty : Graph := ⟨#[]⟩

def size (g : Graph) : Nat := g.nodes.size

/-- A number without a node stands for an absent value. -/
def node (g : Graph) (id : Nat) : Node := g.nodes.getD id ⟨.null, .scalar []⟩

def kind (g : Graph) (id : Nat) : Kind := (g.node id).kind

def content (g : Graph) (id : Nat) : Content := (g.node id).content

def add (g : Graph) (n : Node) : Graph × Nat := (⟨g.nodes.push n⟩, g.size)

def set (g : Graph) (id : Nat) (n : Node) : Graph := ⟨g.nodes.setIfInBounds id n⟩

def fill (g : Graph) (id : Nat) (c : Content) : Graph := g.set id ⟨g.kind id, c⟩

def entries (g : Graph) (id : Nat) : List (Nat × Nat) :=
  match g.content id with
  | .mapping es => es
  | _ => []

def isMapping (g : Graph) (id : Nat) : Bool :=
  match g.content id with
  | .mapping _ => true
  | _ => false

/-- The text of a scalar. A mapping with an equals sign as a key stands for the value of the first
such key, down to a depth. -/
def text (g : Graph) : Nat → Nat → Except Fault Text
  | 0, _ => .error .tooDeep
  | depth + 1, id =>
    match g.content id with
    | .scalar t => .ok t
    | .mapping es =>
      match es.find? fun e => g.kind e.1 = .equals with
      | some e => g.text depth e.2
      | none => .error .malformed
    | .sequence _ => .error .malformed

def mergeAt? (g : Graph) (es : List (Nat × Nat)) : Option Nat :=
  es.findIdx? fun e => g.kind e.1 = .merge

def mergeCount (g : Graph) : Nat :=
  g.nodes.foldl (fun n node =>
    match node.content with
    | .mapping es => n + (es.filter fun e => g.kind e.1 = .merge).length
    | _ => n) 0

def withTextKeys (g : Graph) (es : List (Nat × Nat)) : Graph :=
  es.foldl (fun g e => if g.kind e.1 = .equals then g.set e.1 ⟨.text, g.content e.1⟩ else g) g

/-- Puts what the merges of a mapping name in front of its own entries, after the entries `merged`
that were found for earlier merges. Where a merge names several mappings, the entries of the last
one come first, so that the first one wins. A merge is taken out before its value is looked at, so
that a mapping may name itself; each step takes out one, which the fuel counts. -/
def flattenAfter (merged : List (Nat × Nat)) : Nat → Graph → Nat → Except Fault Graph
  | 0, _, _ => .error .tooDeep
  | fuel + 1, g, id =>
    let es := g.entries id
    match g.mergeAt? es with
    | none => .ok ((g.withTextKeys es).fill id (.mapping (merged ++ es)))
    | some i => do
      let g := g.fill id (.mapping (es.eraseIdx i))
      let source := (es[i]?.map Prod.snd).getD id
      match g.content source with
      | .mapping _ => do
        let g ← flattenAfter [] fuel g source
        flattenAfter (merged ++ g.entries source) fuel g id
      | .sequence items => do
        let (g, found) ← items.foldlM (fun (g, found) item => do
          if !g.isMapping item then .error .malformed
          else
            let g ← flattenAfter [] fuel g item
            .ok (g, g.entries item ++ found)) (g, [])
        flattenAfter (merged ++ found) fuel g id
      | .scalar _ => .error .malformed

def isFlat (g : Graph) (id : Nat) : Bool :=
  (g.entries id).all fun e => g.kind e.1 ≠ .merge && g.kind e.1 ≠ .equals

def flatten (g : Graph) (id : Nat) : Except Fault Graph :=
  if g.isFlat id then .ok g else flattenAfter [] (g.mergeCount + 1) g id

end Graph

end SceneBook.Yaml
