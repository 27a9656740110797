import SceneBook.Collate.Plugin
import SceneBook.Proofs.Workbook.Grouping

/-!
# What media read of an extraction

A medium reads two things of an extraction: the code of each scene, and what it writes for the
definitions. Extractions that agree on both are collated alike.
-/

namespace SceneBook

namespace Medium

/-- The texts that a medium writes for the definitions, which are joined by line feeds. -/
def hoisted (m : Medium) (definitions : List Item) : List Text :=
  match m with
  | .markup | .graphics =>
    if definitions.isEmpty then [] else [Text.join "\n" (definitions.map Item.code)]
  | .styling => definitions.map Styling.block
  | .scripting => definitions.flatMap Scripting.definitionLines

end Medium

structure Extraction.Alike (m : Medium) (e₁ e₂ : Extraction) : Prop where
  scenes : Item.groupByScene "\n" e₁.scenes = Item.groupByScene "\n" e₂.scenes
  hoisted : m.hoisted e₁.definitions = m.hoisted e₂.definitions

private theorem Markup.templates_eq (definitions : List Item) :
    templates definitions = (Medium.markup.hoisted definitions).map fun code =>
      ⟨Artifact.templatesName, "html", .define, code, none, none⟩ := by
  unfold templates Medium.hoisted
  split <;> rfl

private theorem Markup.scenes_congr {xs ys : List Item}
    (h : Item.groupByScene "\n" xs = Item.groupByScene "\n" ys) (element : Text) :
    scenes xs element = scenes ys element := by
  have hempty : xs = [] ↔ ys = [] := by
    rw [← Item.groupByScene_eq_nil_iff "\n" xs, h, Item.groupByScene_eq_nil_iff]
  unfold scenes
  simp only [List.isEmpty_iff, hempty, h]

private theorem Styling.collate_eq (e : Extraction) :
    collate e = [⟨Artifact.stylesName, "css", .define,
      Text.join "\n" (Medium.styling.hoisted e.definitions), none, none⟩] := rfl

private theorem Graphics.join_hoisted (definitions : List Item) :
    Text.join "\n" (Medium.graphics.hoisted definitions) =
      Text.join "\n" (definitions.map Item.code) := by
  cases definitions <;> rfl

private theorem Workbook.span_congr (w : Workbook) {e₁ e₂ : Extraction}
    (h : Item.groupByScene "\n" e₁.scenes = Item.groupByScene "\n" e₂.scenes) :
    w.span e₁ = w.span e₂ := by
  unfold Workbook.span
  rw [Item.span_eq_of_indices_eq ((Item.groupByScene_eq_iff "\n").mp h).1]

/-- Extractions that a medium cannot tell apart are collated alike by it. -/
theorem Extraction.Alike.collate_eq {m : Medium} {e₁ e₂ : Extraction} (h : e₁.Alike m e₂)
    (w : Workbook) (s : Settings) : m.collate w e₁ s = m.collate w e₂ s := by
  obtain ⟨hscenes, hhoisted⟩ := h
  cases m with
  | markup =>
    apply congrArg Except.ok
    unfold Markup.collate
    rw [Markup.templates_eq, Markup.templates_eq, hhoisted, Markup.scenes_congr hscenes]
  | styling =>
    apply congrArg Except.ok
    rw [Styling.collate_eq, Styling.collate_eq, hhoisted]
  | graphics =>
    apply congrArg Except.ok
    unfold Graphics.collate Graphics.shapes
    rw [← Graphics.join_hoisted, ← Graphics.join_hoisted, hhoisted, hscenes]
  | scripting =>
    change e₁.definitions.flatMap Scripting.definitionLines =
      e₂.definitions.flatMap Scripting.definitionLines at hhoisted
    change Scripting.collate w e₁ s = Scripting.collate w e₂ s
    unfold Scripting.collate Scripting.assemble Scripting.parts
    rw [w.span_congr hscenes, hscenes]
    cases Import.lines w.imports with
    | error f => rfl
    | ok importLines =>
      cases s.storeRootKey.json? with
      | none => rfl
      | some rootKey =>
        simp only [Except.map, Scripting.Parts.text, Scripting.Parts.lines,
          Scripting.Parts.titleLine, Scripting.Parts.announceLines, Scripting.Parts.tableLines,
          Scripting.Parts.mount, bind, Except.bind, hhoisted]

end SceneBook
