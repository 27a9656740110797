import SceneBook.Workbook.Extraction

/-!
# Extracted items

What is extracted of a language is all its fragments as items, split by their mode.
-/

namespace SceneBook

/-- The fragments of a language in document order. -/
def Workbook.items (w : Workbook) (language : Text) : List Item :=
  w.scenes.flatMap fun s => (s.fragmentsOf language).map (Item.ofFragment s.index)

namespace Extraction

private theorem foldl_add (e : Extraction) (items : List Item) : items.foldl add e =
    ⟨e.scenes ++ items.filter fun i => !i.classification.isDefinition,
      e.definitions ++ items.filter fun i => i.classification.isDefinition⟩ := by
  induction items generalizing e with
  | nil => simp
  | cons i rest ih =>
    rw [List.foldl_cons, ih, add]
    cases hi : i.classification.isDefinition <;> simp [hi]

end Extraction

theorem Workbook.extract_eq_filter (w : Workbook) (language : Text) : w.extract language =
    ⟨(w.items language).filter fun i => !i.classification.isDefinition,
      (w.items language).filter fun i => i.classification.isDefinition⟩ := by
  have hitems : w.extract language = (w.items language).foldl Extraction.add .empty := by
    simp only [extract, items, List.foldl_flatMap, List.foldl_map]
  rw [hitems, Extraction.foldl_add]
  rfl

theorem Workbook.scenes_extract (w : Workbook) (language : Text) : (w.extract language).scenes =
    (w.items language).filter fun i => !i.classification.isDefinition := by rw [extract_eq_filter]

theorem Workbook.definitions_extract (w : Workbook) (language : Text) :
    (w.extract language).definitions =
      (w.items language).filter fun i => i.classification.isDefinition := by rw [extract_eq_filter]

end SceneBook
