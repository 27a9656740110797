import SceneBook.Settings.Basic
import SceneBook.Value.Heap
import SceneBook.Failure

/-!
# Stores

A store is a tree of mappings in a heap, its root mapping under one key at the top. A node is a
handle on a mapping that a path has reached; what one handle writes, all handles on that mapping
read.
-/

namespace SceneBook

structure Store where
  rootKey : Scalar
  top : Nat

structure Node where
  path : List Value
  target : Nat

namespace Store

def defaultRootKey : Value := .text Settings.defaultRootKey

/-- The entries a store starts from; an empty value of any kind gives none. -/
def initialEntries (h : Heap) (initial : Slot) : Except Misuse (Entries Slot) :=
  if h.isTruthy initial then h.entries initial else .ok []

/-- A store whose root mapping is a new one with the entries of the initial value. -/
def create (h : Heap) (initial : Slot) (rootKey : Value) : Except Misuse (Heap × Store) := do
  let es ← initialEntries h initial
  let key ← rootKey.key?
  let (h, root) := h.alloc (.mapping es)
  let (h, top) := h.alloc (.mapping [(key, .ref root)])
  pure (h, ⟨key, top⟩)

def follow [Limits] (h : Heap) (path : List Value) : Slot → List Value → Except Failure Slot
  | at', [] => .ok at'
  | at', segment :: rest =>
    match (h.mappingId? at').bind h.mapping? with
    | none => .error (Report.storePath path segment).failure
    | some es =>
      match es.seek segment with
      | .error m => .error (.misuse m)
      | .ok none => .error (Report.storePath path segment).failure
      | .ok (some next) => follow h path next rest

def walk [Limits] (h : Heap) (path : List Value) (start : Slot) : Except Failure Nat := do
  let last ← follow h path start (path.take Limits.path)
  if Limits.path < path.length then .error (.misuse .tooDeep)
  else match h.mappingId? last with
    | some id => .ok id
    | none => .error (Report.storePath path (path.getLast?.getD .null)).failure

/-- The handle on the mapping at a path from the top; without a path, on the root mapping. -/
def connect [Limits] (h : Heap) (s : Store) (path : Value) : Except Failure Node := do
  let segments ← if path.isNull then .ok [.scalar s.rootKey] else path.parts.mapError .misuse
  let target ← walk h segments (.ref s.top)
  pure ⟨segments, target⟩

/-- A new mapping with the entries that the root has now. -/
def snapshot (h : Heap) (s : Store) : Except Misuse (Heap × Nat) := do
  let root := ((h.mapping? s.top).bind fun es => es.find? s.rootKey).getD (.scalar .null)
  let es ← h.entries root
  pure (h.alloc (.mapping es))

end Store

namespace Node

def entries (h : Heap) (n : Node) : Entries Slot := (h.mapping? n.target).getD []

def keys (h : Heap) (n : Node) : List Scalar := (n.entries h).keys

def get (h : Heap) (n : Node) (key : Value) : Except Misuse (Option Slot) := (n.entries h).seek key

def contains (h : Heap) (n : Node) (key : Value) : Except Misuse Bool :=
  (n.get h key).map Option.isSome

def put (h : Heap) (n : Node) (key : Value) (s : Slot) : Except Misuse Heap :=
  key.key?.map fun k => h.write n.target (.mapping ((n.entries h).put k s))

def set (h : Heap) (n : Node) (key : Value) (v : Value) : Except Misuse Heap :=
  let (h, slot) := h.add v
  n.put h key slot

def push (h : Heap) (n : Node) (key : Value) (v : Value) : Except Misuse Heap := do
  match ← n.get h key with
  | some (.ref id) =>
    match h.sequence? id with
    | some items =>
      let (h, slot) := h.add v
      pure (h.write id (.sequence (items ++ [slot])))
    | none => .error .noSuchPart
  | _ => .error .noSuchPart

def shown (h : Heap) (n : Node) : Text :=
  "StoreNode(path=" ++ (Value.list n.path).shown ++ ", keys=" ++
    (Value.list ((n.keys h).map Value.scalar)).shown ++ ")"

end Node

end SceneBook
