import SceneBook.Settings.Layers
import SceneBook.Value.Heap

/-!
# Layers as objects

Two mappings are merged into a new one. It starts as a copy of the earlier mapping, and the entries
of the later one are written over it. Mappings of both under one key are merged into a new one in
turn; all else is shared with the two, and neither of them is written to.
-/

namespace SceneBook

namespace Heap

def bindings (h : Heap) (id : Nat) : Entries Slot := (h.mapping? id).getD []

def put (h : Heap) (id : Nat) (k : Scalar) (s : Slot) : Heap :=
  h.write id (.mapping ((h.bindings id).put k s))

/-- What a slot of the later mapping makes of the one before it. -/
def overlay (merge : Heap → Nat → Nat → Heap × Except Misuse Nat) (h : Heap)
    (before : Option Slot) (s : Slot) : Heap × Except Misuse Slot :=
  match before.bind h.mappingId?, h.mappingId? s with
  | some base, some later =>
    let (h, merged) := merge h base later
    (h, merged.map .ref)
  | _, _ => (h, .ok s)

/-- Writes the entries of the later mapping over those of another one, one after the other. What
has been written up to a failure stays. -/
def fill (merge : Heap → Nat → Nat → Heap × Except Misuse Nat) (target : Nat) (h : Heap) :
    Entries Slot → Heap × Except Misuse Unit
  | [] => (h, .ok ())
  | (k, s) :: rest =>
    match overlay merge h ((h.bindings target).find? k) s with
    | (h, .error e) => (h, .error e)
    | (h, .ok r) => fill merge target (h.put target k r) rest

def mergeWithin : Nat → Heap → Nat → Nat → Heap × Except Misuse Nat
  | 0 => fun h _ _ => (h, .error .tooDeep)
  | depth + 1 => fun h base later =>
    let (h, target) := h.alloc (.mapping (h.bindings base))
    let (h, filled) := fill (mergeWithin depth) target h (h.bindings later)
    (h, filled.map fun _ => target)

/-- Merges a later mapping over a base. The result is a new mapping. -/
def merge [Limits] (h : Heap) (base later : Nat) : Heap × Except Misuse Nat :=
  mergeWithin Limits.merge h base later

end Heap

namespace Settings

/-- Merges values of any kind. Only mappings can be merged; over a list an empty mapping changes
nothing. -/
def mergeValues [Limits] (base later : Value) : Except Misuse Value :=
  let (h, base') := Heap.empty.add base
  let (h, later') := h.add later
  match h.mappingId? base', h.mappingId? later' with
  | some b, some l =>
    let (h, merged) := h.merge b l
    merged.map fun id => h.value (.ref id)
  | some _, none => .error .noSuchPart
  | none, l? =>
    match base.opened, l?.map h.bindings with
    | .list vs, some [] => .ok (.list vs)
    | .list _, some _ => .error .notAKey
    | _, _ => .error .noSuchPart

end Settings

end SceneBook
