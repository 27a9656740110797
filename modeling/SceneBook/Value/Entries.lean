import SceneBook.Misuse
import SceneBook.Value.Scalar

/-!
# Entries of a mapping

A mapping is a list of entries in the order of their first insertion. Writing to a key that is
present replaces the value and keeps the key and its place; any other key goes to the end.
-/

namespace SceneBook

abbrev Entries (α : Type) := List (Scalar × α)

namespace Entries

variable {α β : Type}

def find? (es : Entries α) (k : Scalar) : Option α :=
  match es with
  | [] => none
  | (k', v) :: rest => if k'.same k then some v else find? rest k

def has (es : Entries α) (k : Scalar) : Bool := (find? es k).isSome

def put (es : Entries α) (k : Scalar) (v : α) : Entries α :=
  match es with
  | [] => [(k, v)]
  | (k', v') :: rest => if k'.same k then (k', v) :: rest else (k', v') :: put rest k v

def keys (es : Entries α) : List Scalar := es.map Prod.fst

def ofPairs (pairs : List (Scalar × α)) : Entries α :=
  pairs.foldl (fun es p => es.put p.1 p.2) []

/-- Pairs written one after the other over the entries there are. A pair is anything that has two
parts, the first of them a key. -/
def addPairs (parts : α → Except Misuse (List α)) (key : α → Except Misuse Scalar)
    (es : Entries α) : List α → Except Misuse (Entries α)
  | [] => .ok es
  | p :: rest => do
    match ← parts p with
    | [k, v] =>
      let k ← key k
      addPairs parts key (es.put k v) rest
    | _ => .error .notPairs

end Entries

end SceneBook
