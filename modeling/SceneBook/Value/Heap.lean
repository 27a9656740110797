import SceneBook.Value.Basic

/-!
# Heaps

Collections that can be changed and shared live in a heap and are known by their place in it. A
slot holds a scalar or a reference to such an object, so that two slots can share one object, and
an object can hold itself.
-/

namespace SceneBook

inductive Slot
  | scalar (s : Scalar)
  | ref (id : Nat)
  deriving DecidableEq

inductive Object
  | mapping (entries : Entries Slot)
  | sequence (items : List Slot)
  | tuple (items : List Slot)
  | set (members : List Scalar)

/-- The objects by their identities; an object is never removed. -/
structure Heap where
  objects : Array Object

namespace Slot

def key? : Slot → Except Misuse Scalar
  | .scalar s => .ok s
  | .ref _ => .error .notAKey

end Slot

namespace Heap

def empty : Heap := ⟨#[]⟩

def get? (h : Heap) (id : Nat) : Option Object := h.objects[id]?

def fresh (h : Heap) : Nat := h.objects.size

def alloc (h : Heap) (o : Object) : Heap × Nat := (⟨h.objects.push o⟩, h.fresh)

/-- Changes an object that is there; its identity stays. -/
def write (h : Heap) (id : Nat) (o : Object) : Heap := ⟨h.objects.setIfInBounds id o⟩

def mapping? (h : Heap) (id : Nat) : Option (Entries Slot) :=
  match h.get? id with
  | some (.mapping es) => some es
  | _ => none

def sequence? (h : Heap) (id : Nat) : Option (List Slot) :=
  match h.get? id with
  | some (.sequence items) => some items
  | _ => none

def mappingId? (h : Heap) : Slot → Option Nat
  | .ref id => if (h.mapping? id).isSome then some id else none
  | .scalar _ => none

def isTruthy (h : Heap) : Slot → Bool
  | .scalar s => s.isTruthy
  | .ref id =>
    match h.get? id with
    | some (.mapping es) => !es.isEmpty
    | some (.sequence items) | some (.tuple items) => !items.isEmpty
    | some (.set ks) => !ks.isEmpty
    | none => false

mutual

/-- Puts a value with all its parts into the heap, as new objects. `labels` tells which objects
the knots around it have become; such an object is there before its parts. -/
def place (h : Heap) (labels : List (Nat × Nat)) : Value → Heap × Slot
  | .scalar s => (h, .scalar s)
  | .list items =>
    let (h, slots) := placeItems h labels items
    let (h, id) := h.alloc (.sequence slots)
    (h, .ref id)
  | .tuple items =>
    let (h, slots) := placeItems h labels items
    let (h, id) := h.alloc (.tuple slots)
    (h, .ref id)
  | .set ks =>
    let (h, id) := h.alloc (.set ks)
    (h, .ref id)
  | .map es =>
    let (h, slots) := placeEntries h labels es
    let (h, id) := h.alloc (.mapping slots)
    (h, .ref id)
  | .knot l (.list items) =>
    let (h, id) := h.alloc (.sequence [])
    let (h, slots) := placeItems h ((l, id) :: labels) items
    (h.write id (.sequence slots), .ref id)
  | .knot l (.tuple items) =>
    let (h, id) := h.alloc (.tuple [])
    let (h, slots) := placeItems h ((l, id) :: labels) items
    (h.write id (.tuple slots), .ref id)
  | .knot l (.map es) =>
    let (h, id) := h.alloc (.mapping [])
    let (h, slots) := placeEntries h ((l, id) :: labels) es
    (h.write id (.mapping slots), .ref id)
  | .knot _ b => place h labels b
  | .back l _ => (h, ((labels.lookup l).map Slot.ref).getD (.scalar .null))

def placeItems (h : Heap) (labels : List (Nat × Nat)) : List Value → Heap × List Slot
  | [] => (h, [])
  | v :: rest =>
    let (h, slot) := place h labels v
    let (h, slots) := placeItems h labels rest
    (h, slot :: slots)

def placeEntries (h : Heap) (labels : List (Nat × Nat)) :
    List (Scalar × Value) → Heap × List (Scalar × Slot)
  | [] => (h, [])
  | (k, v) :: rest =>
    let (h, slot) := place h labels v
    let (h, slots) := placeEntries h labels rest
    (h, (k, slot) :: slots)

end

def add (h : Heap) (v : Value) : Heap × Slot := h.place [] v

abbrev Known := Array (Option Value)

/-- The value of a slot inside the objects `outer`, and those of `outer` that it leads back to. An
object that leads back to itself or further out is a knot under its identity; one that does not is
the same value everywhere, and so is kept. No chain of different objects is longer than the heap,
which bounds the depth. -/
def unfold (h : Heap) : Nat → List Nat → Slot → StateM Known (Value × List Nat)
  | _, _, .scalar s => pure (.scalar s, [])
  | 0, _, .ref id => pure (.back id false, [])
  | depth + 1, outer, .ref id => do
    if outer.contains id then return (.back id (h.mapping? id).isSome, [id])
    if let some (some v) := (← get)[id]? then return (v, [])
    let items (slots : List Slot) : StateM Known (List Value × List Nat) := do
      let parts ← slots.mapM (h.unfold depth (id :: outer))
      return (parts.map Prod.fst, parts.flatMap Prod.snd)
    let (body, ways) ← match h.get? id with
      | some (.mapping es) => do
        let (vs, ways) ← items (es.map Prod.snd)
        pure (Value.map ((es.map Prod.fst).zip vs), ways)
      | some (.sequence slots) => do
        let (vs, ways) ← items slots
        pure (Value.list vs, ways)
      | some (.tuple slots) => do
        let (vs, ways) ← items slots
        pure (Value.tuple vs, ways)
      | some (.set ks) => pure (Value.set ks, [])
      | none => pure (Value.null, [])
    let v := if ways.isEmpty then body else .knot id body
    let out := (ways.filter (· ≠ id)).eraseDups
    if out.isEmpty then modify fun known => known.setIfInBounds id (some v)
    return (v, out)

def value (h : Heap) (s : Slot) : Value :=
  let ((v, _), _) := (h.unfold (h.fresh + 1) [] s).run (Array.replicate h.fresh none)
  v

/-- What a slot is gone through by. The parts share what they refer to. -/
def parts (h : Heap) : Slot → Except Misuse (List Slot)
  | .scalar (.text t) => .ok (t.map fun c => .scalar (.text [c]))
  | .scalar (.bytes bs) => .ok (bs.map fun (n : Nat) => .scalar (.int n))
  | .scalar _ => .error .noParts
  | .ref id =>
    match h.get? id with
    | some (.sequence items) | some (.tuple items) => .ok items
    | some (.set ks) => .ok (ks.map .scalar)
    | some (.mapping es) => .ok (es.map fun e => .scalar e.1)
    | none => .error .noParts

def entries (h : Heap) (s : Slot) : Except Misuse (Entries Slot) :=
  match (h.mappingId? s).bind h.mapping? with
  | some es => .ok es
  | none => do Entries.addPairs h.parts Slot.key? [] (← h.parts s)

end Heap

end SceneBook
