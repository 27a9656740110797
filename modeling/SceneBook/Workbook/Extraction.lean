import SceneBook.Workbook.Basic

/-!
# Extraction

The fragments of one language, split into definitions and scene items. Scene items are grouped
into one code per scene, in the order of the scene indices.
-/

namespace SceneBook

/-- A fragment together with the index of the scene it comes from. -/
structure Item where
  sceneIndex : Int
  attrs : Entries Value
  code : Text
  classification : Classification

structure Extraction where
  scenes : List Item
  definitions : List Item

namespace Item

def sceneNumber (i : Item) : Int := i.sceneIndex + 1

/-- A fragment that was never classified counts as an evaluation. -/
def ofFragment (index : Int) (f : Fragment) : Item :=
  ⟨index, f.attrs, f.code, f.classification.getD .eval⟩

/-- Puts the code of an item behind the codes that are there for its scene, or at the end as the
first one of its scene. -/
def gather : List (Int × List Text) → Item → List (Int × List Text)
  | [], i => [(i.sceneIndex, [i.code])]
  | (index, codes) :: rest, i =>
    if index = i.sceneIndex then (index, codes ++ [i.code]) :: rest
    else (index, codes) :: gather rest i

def insertIndex (i : Int) : List Int → List Int
  | [] => [i]
  | j :: rest => if i < j then i :: j :: rest else if i = j then j :: rest
    else j :: insertIndex i rest

def sortIndices (is : List Int) : List Int := is.foldr insertIndex []

/-- The items merged into one code per scene, in increasing order of the scene index. -/
def groupByScene (separator : Text) (items : List Item) : List (Int × Text) :=
  let gathered := items.foldl gather []
  (sortIndices (gathered.map Prod.fst)).map fun i =>
    (i, Text.join separator ((gathered.lookup i).getD []))

/-- One more than the highest scene index, and zero when that is negative or there is none. -/
def span (items : List Item) : Nat :=
  items.foldr (fun i n => max (i.sceneIndex + 1).toNat n) 0

end Item

namespace Extraction

def empty : Extraction := ⟨[], []⟩

def size (e : Extraction) : Nat := e.scenes.length + e.definitions.length

/-- An item at the end of the definitions, if it is one, and of the scene items if not. -/
def add (e : Extraction) (i : Item) : Extraction :=
  if i.classification.isDefinition then { e with definitions := e.definitions ++ [i] }
  else { e with scenes := e.scenes ++ [i] }

end Extraction

namespace Workbook

def extract (w : Workbook) (language : Text) : Extraction :=
  w.scenes.foldl
    (fun e s => (s.fragmentsOf language).foldl (fun e f => e.add (Item.ofFragment s.index f)) e)
    .empty

/-- How many scenes a dispatch table covers: those of the workbook, and those up to the highest
index that a scene item has. -/
def span (w : Workbook) (e : Extraction) : Nat := max w.sceneCount (Item.span e.scenes)

end Workbook

end SceneBook
