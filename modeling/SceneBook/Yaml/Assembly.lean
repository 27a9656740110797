import SceneBook.Value.Heap
import SceneBook.Yaml.Node
import SceneBook.Yaml.Scalar

/-!
# Values of nodes

Nodes become scalars and objects of a heap. A collection is there as soon as it is met, and its
parts are put in later: those of the collections that were met first come first, all of one round
before any of the next. So a collection can be a part of itself, and of two faults the one in the
earlier round is reported.
-/

namespace SceneBook.Yaml

structure Assembly where
  graph : Graph
  heap : Heap
  /-- What the nodes have become that were met so far. -/
  slots : Array (Option Slot)
  /-- Nodes of collections without their parts, and their objects, last one first. -/
  waiting : List (Nat × Nat)

def Kind.object? : Kind → Option Object
  | .sequence | .pairs => some (.sequence [])
  | .mapping => some (.mapping [])
  | .set => some (.set [])
  | _ => none

namespace Assembly

def start (g : Graph) : Assembly := ⟨g, .empty, Array.replicate g.size none, []⟩

/-- The scalar of a node. Its number tells apart what is not equal to itself. -/
def scalar (g : Graph) (id : Nat) : Except Fault Scalar :=
  match g.kind id with
  | .merge | .equals | .other => .error .malformed
  | k => do
    let t ← g.text (g.size + 1) id
    if k = .timestamp && g.isMapping id then .error (.literal .dateInMapping)
    else readScalar (id + 1) k t

def keep (a : Assembly) (id : Nat) (s : Slot) : Assembly :=
  { a with slots := a.slots.setIfInBounds id (some s) }

def slot (a : Assembly) (id : Nat) : Except Fault (Slot × Assembly) :=
  match a.slots[id]? with
  | some (some s) => .ok (s, a)
  | _ =>
    match (a.graph.kind id).object? with
    | some o =>
      let (heap, object) := a.heap.alloc o
      .ok (.ref object, { a.keep id (.ref object) with heap, waiting := (id, object) :: a.waiting })
    | none => (scalar a.graph id).map fun s => (.scalar s, a.keep id (.scalar s))

def slotsOf (a : Assembly) : List Nat → Except Fault (List Slot × Assembly)
  | [] => .ok ([], a)
  | id :: rest => do
    let (s, a) ← a.slot id
    let (ss, a) ← a.slotsOf rest
    .ok (s :: ss, a)

def write (a : Assembly) (object : Nat) (o : Object) : Assembly :=
  { a with heap := a.heap.write object o }

def itemsOf (g : Graph) (id : Nat) : Except Fault (List Nat) :=
  match g.content id with
  | .sequence items => .ok items
  | _ => .error .malformed

/-- The entries of a mapping written over some; only scalars can be keys. -/
def addEntries (a : Assembly) (es : Entries Slot) :
    List (Nat × Nat) → Except Fault (Entries Slot × Assembly)
  | [] => .ok (es, a)
  | (k, v) :: rest => do
    match ← a.slot k with
    | (.ref _, _) => .error .malformed
    | (.scalar key, a) =>
      let (s, a) ← a.slot v
      a.addEntries (es.put key s) rest

def entriesOf (a : Assembly) (id : Nat) : Except Fault (Entries Slot × Assembly) := do
  if !a.graph.isMapping id then .error .malformed
  else
    let graph ← a.graph.flatten id
    let es := graph.entries id
    { a with graph }.addEntries [] es

/-- A pair for each of some nodes, which have to be mappings of one entry. -/
def pairsOf (a : Assembly) : List Nat → Except Fault (List Slot × Assembly)
  | [] => .ok ([], a)
  | id :: rest => do
    match a.graph.entries id with
    | [(k, v)] =>
      let (key, a) ← a.slot k
      let (s, a) ← a.slot v
      let (heap, object) := a.heap.alloc (.tuple [key, s])
      let (ss, a) ← { a with heap }.pairsOf rest
      .ok (.ref object :: ss, a)
    | _ => .error .malformed

def fill (a : Assembly) (node object : Nat) : Except Fault Assembly :=
  match a.graph.kind node with
  | .mapping => do
    let (es, a) ← a.entriesOf node
    .ok (a.write object (.mapping es))
  | .set => do
    let (es, a) ← a.entriesOf node
    .ok (a.write object (.set es.keys))
  | .pairs => do
    let (ss, a) ← a.pairsOf (← itemsOf a.graph node)
    .ok (a.write object (.sequence ss))
  | _ => do
    let (ss, a) ← a.slotsOf (← itemsOf a.graph node)
    .ok (a.write object (.sequence ss))

/-- Puts the parts in round by round. Each round takes other nodes, which bounds their number. -/
def complete : Nat → Assembly → Except Fault Assembly
  | 0, a => .ok a
  | rounds + 1, a =>
    if a.waiting.isEmpty then .ok a
    else do
      let a ← a.waiting.reverse.foldlM (fun a w => a.fill w.1 w.2) { a with waiting := [] }
      complete rounds a

end Assembly

def Graph.value (g : Graph) (id : Nat) : Except Fault Value := do
  let (s, a) ← (Assembly.start g).slot id
  let a ← Assembly.complete (g.size + 1) a
  .ok (a.heap.value s)

end SceneBook.Yaml
