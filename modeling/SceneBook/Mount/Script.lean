import SceneBook.Store.Basic

/-!
# Scripts

A script is a list of steps on a store and on the context of a run. Nodes are named by the steps
that connect them. The slots of a step are in the heap, so that every run of the step gives away
the same objects; its values become new objects on every run. A step that fails ends its script,
and what was done before stays.
-/

namespace SceneBook.Mount

inductive Step
  | connect (name : Text) (path : Value)
  /-- Puts the sum of what is under the key, or zero, and the amount under the key. -/
  | add (node : Text) (key : Value) (amount : Slot)
  | set (node : Text) (key : Value) (value : Slot)
  | build (node : Text) (key value : Value)
  /-- Puts what is under a key of one node, or null, under a key of another. -/
  | copy (source : Text) (sourceKey : Value) (node : Text) (key : Value)
  /-- Adds a value to the end of the list under the key. -/
  | push (node : Text) (key value : Value)
  | storeContext (node : Text) (key : Value)
  | emit (node : Text) (key : Value) (fallback : Slot)
  /-- Emits the capability that programs are not given yet, which is null. -/
  | emitCapability

abbrev Script := List Step

/-- What steps work on: the heap, and the nodes that have a name. -/
structure Workspace where
  heap : Heap
  nodes : List (Text × Node)

def double? (i : Int) : Except Misuse Double :=
  let d := Double.ofInt i
  if d.isFinite then .ok d else .error .tooLarge

def sum? : Scalar → Scalar → Except Misuse Scalar
  | .int a, .int b => .ok (.int (a + b))
  | .float a, .float b => .ok (.float (a.add b))
  | .int a, .float b => (double? a).map fun a => .float (a.add b)
  | .float a, .int b => (double? b).map fun b => .float (a.add b)
  | .text a, .text b => .ok (.text (a ++ b))
  | _, _ => .error .notANumber

def counted : Scalar → Scalar
  | .bool b => .int (if b then 1 else 0)
  | s => s

namespace Workspace

def node (w : Workspace) (name : Text) : Except Failure Node :=
  match w.nodes.lookup name with
  | some n => .ok n
  | none => .error (.misuse .noSuchNode)

/-- The identity of the context, which has to be a list, and its items. -/
def contextList (w : Workspace) : Slot → Except Failure (Nat × List Slot)
  | .scalar _ => .error (.misuse .noSuchPart)
  | .ref id =>
    match w.heap.sequence? id with
    | some items => .ok (id, items)
    | none => .error (.misuse .noSuchPart)

def fetch (w : Workspace) (n : Node) (key : Value) (fallback : Slot) : Except Failure Slot :=
  ((n.get w.heap key).map fun s => s.getD fallback).mapError .misuse

/-- The sum of two scalars, or a new list with the items of both lists in a row. -/
def sum (h : Heap) : Slot → Slot → Except Misuse (Heap × Slot)
  | .scalar a, .scalar b => (sum? (counted a) (counted b)).map fun total => (h, .scalar total)
  | .ref a, .ref b =>
    match h.sequence? a, h.sequence? b with
    | some items, some more =>
      let (h, id) := h.alloc (.sequence (items ++ more))
      .ok (h, .ref id)
    | _, _ => .error .notANumber
  | _, _ => .error .notANumber

/-- Adds what is under a key to the end of the context, which is looked at first. -/
def emit (w : Workspace) (context : Slot) (n : Node) (key : Value) (fallback : Slot) :
    Except Failure Workspace := do
  let (id, items) ← w.contextList context
  let s ← w.fetch n key fallback
  pure { w with heap := w.heap.write id (.sequence (items ++ [s])) }

def emitNull (w : Workspace) (context : Slot) : Except Failure Workspace := do
  let (id, items) ← w.contextList context
  pure { w with heap := w.heap.write id (.sequence (items ++ [.scalar .null])) }

def add (w : Workspace) (n : Node) (key : Value) (amount : Slot) : Except Failure Workspace := do
  let s ← w.fetch n key (.scalar (.int 0))
  let (h, total) ← (sum w.heap s amount).mapError Failure.misuse
  let h ← (n.put h key total).mapError Failure.misuse
  pure { w with heap := h }

def put (w : Workspace) (n : Node) (key : Value) (s : Slot) : Except Failure Workspace :=
  ((n.put w.heap key s).map fun h => { w with heap := h }).mapError .misuse

def build (w : Workspace) (n : Node) (key value : Value) : Except Failure Workspace :=
  ((n.set w.heap key value).map fun h => { w with heap := h }).mapError .misuse

def copy (w : Workspace) (source : Node) (sourceKey : Value) (n : Node) (key : Value) :
    Except Failure Workspace := do
  w.put n key (← w.fetch source sourceKey (.scalar .null))

def push (w : Workspace) (n : Node) (key value : Value) : Except Failure Workspace :=
  ((n.push w.heap key value).map fun h => { w with heap := h }).mapError .misuse

end Workspace

def Step.run [Limits] (store : Store) (context : Slot) (w : Workspace) :
    Step → Except Failure Workspace
  | .connect name path => do
    let n ← store.connect w.heap path
    pure { w with nodes := (name, n) :: w.nodes }
  | .add node key amount => do w.add (← w.node node) key amount
  | .set node key value => do w.put (← w.node node) key value
  | .build node key value => do w.build (← w.node node) key value
  | .copy source sourceKey node key => do
    let n ← w.node node
    w.copy (← w.node source) sourceKey n key
  | .push node key value => do w.push (← w.node node) key value
  | .storeContext node key => do w.put (← w.node node) key context
  | .emit node key fallback => do w.emit context (← w.node node) key fallback
  | .emitCapability => w.emitNull context

def Script.run [Limits] (store : Store) (context : Slot) (w : Workspace) :
    Script → Workspace × Except Failure Unit
  | [] => (w, .ok ())
  | step :: rest =>
    match step.run store context w with
    | .ok w' => Script.run store context w' rest
    | .error f => (w, .error f)

end SceneBook.Mount
