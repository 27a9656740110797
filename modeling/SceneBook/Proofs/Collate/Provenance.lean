import SceneBook.Proofs.Collate.Containers
import SceneBook.Proofs.Collate.ModuleLines

/-!
# Provenance of scenes and styles

The container of a scene and the comment above a style sheet's definition both have the number of
the scene in them. Codes are put next to these as they are, and may look like them. Yet as long as
no code has a line feed, all containers of a page take equally many lines, and so do all definitions
of a style sheet. So these texts tell the numbers and codes that they were made of.
-/

namespace SceneBook

open Text (lineFeed)

/-- The text that stands under a name, if there is one. -/
def Artifact.textOf (name : Text) (as : List Artifact) : Option Text :=
  (as.find? fun a => a.name = name).map code

/-- The scenes that have items, by number and code. -/
def Item.numberedScenes (items : List Item) : List (Int × Text) :=
  (groupByScene "\n" items).map fun (index, code) => (index + 1, code)

namespace Markup

def containerOf (element : Text) (p : Int × Text) : Text :=
  wrapScene p.2 (Text.ofInt p.1) element

private theorem containers_eq (items : List Item) (element : Text) :
    containers items element = (Item.numberedScenes items).map (containerOf element) := by
  simp only [containers, Item.numberedScenes, List.map_map, Function.comp_def, containerOf]

private theorem containerOf_injective (element : Text) :
    Function.Injective (containerOf element) := by
  rintro ⟨number, code⟩ ⟨number', code'⟩ h
  simp only [containerOf, wrapScene, List.append_assoc, List.append_cancel_left_eq] at h
  obtain ⟨rfl, htail⟩ := Text.ofInt_append_inj (by decide) (by decide) h
  have hcode : code ++ ("</" ++ (element ++ ">")) = code' ++ ("</" ++ (element ++ ">")) :=
    (List.cons.inj htail).2
  rw [List.append_cancel_right hcode]

private theorem count_containerOf (element : Text) {p : Int × Text} (h : lineFeed ∉ p.2) :
    containerOf element p ≠ [] ∧
      (containerOf element p).count lineFeed = 2 * element.count lineFeed := by
  have hlines := length_lines_wrapScene p.2 element p.1
  rw [Text.length_lines, List.count_eq_zero.mpr h] at hlines
  constructor
  · exact List.cons_ne_nil _ _
  · unfold containerOf
    omega

private theorem textOf_collate (e : Extraction) (s : Settings) :
    Artifact.textOf Artifact.scenesName (collate e s) =
      if Item.numberedScenes e.scenes = [] then none
      else some (Text.join "\n" ((Item.numberedScenes e.scenes).map
        (containerOf s.sceneElement.plain))) := by
  have hname : Artifact.templatesName ≠ Artifact.scenesName := by decide
  have hnil : Item.numberedScenes e.scenes = [] ↔ e.scenes.isEmpty := by
    simp [Item.numberedScenes, Item.groupByScene_eq_nil_iff]
  have htemplates :
      (templates e.definitions).find? (fun a => a.name = Artifact.scenesName) = none := by
    unfold templates
    split <;> simp [hname]
  rw [Artifact.textOf, collate, List.find?_append, htemplates, Option.none_or, scenes, ← containers,
    containers_eq]
  simp only [hnil]
  split <;> simp

end Markup

namespace Styling

/-- The block of a definition, by the number of its scene and its code. -/
def blockOf (p : Int × Text) : Text := provenance (Text.ofInt p.1) ++ "\n" ++ p.2

private theorem textOf_collate (e : Extraction) :
    Artifact.textOf Artifact.stylesName (collate e) =
      some (Text.join "\n" ((e.definitions.map Item.numbered).map blockOf)) := by
  rw [List.map_map]
  rfl

private theorem blockOf_injective : Function.Injective blockOf := by
  rintro ⟨number, code⟩ ⟨number', code'⟩ h
  simp only [blockOf, provenance, List.append_assoc, List.append_cancel_left_eq] at h
  obtain ⟨rfl, htail⟩ := Text.ofInt_append_inj (by decide) (by decide) h
  have hcode : "*/\n" ++ code = ("*/\n" : Text) ++ code' := htail
  rw [List.append_cancel_left hcode]

theorem count_blockOf {p : Int × Text} (h : lineFeed ∉ p.2) :
    blockOf p ≠ [] ∧ (blockOf p).count lineFeed = 1 := by
  have hnumber : (Text.ofInt p.1).count lineFeed = 0 :=
    Text.count_ofInt (by decide) (by decide) p.1
  have hframe : ("/* Kram: CSS in Scene " : Text).count lineFeed = 0 ∧
      (" */" : Text).count lineFeed = 0 ∧ ("\n" : Text).count lineFeed = 1 := by decide
  constructor
  · exact List.cons_ne_nil _ _
  · simp only [blockOf, provenance, List.count_append, hnumber, hframe, List.count_eq_zero.mpr h]

end Styling

/-- Where no scene has a line feed in its code, two pages with the same element have the same text
exactly if they have the same scenes by number and code, and likewise two style sheets without line
feeds in their definitions, whatever else is in the codes. -/
theorem provenance_told :
    (∀ (e₁ e₂ : Extraction) (s₁ s₂ : Settings),
      s₁.sceneElement.plain = s₂.sceneElement.plain →
      (∀ p ∈ Item.numberedScenes e₁.scenes, lineFeed ∉ p.2) →
      (∀ p ∈ Item.numberedScenes e₂.scenes, lineFeed ∉ p.2) →
      (Artifact.textOf Artifact.scenesName (Markup.collate e₁ s₁) =
          Artifact.textOf Artifact.scenesName (Markup.collate e₂ s₂) ↔
        Item.numberedScenes e₁.scenes = Item.numberedScenes e₂.scenes)) ∧
    ∀ e₁ e₂ : Extraction,
      (∀ d ∈ e₁.definitions, lineFeed ∉ d.code) → (∀ d ∈ e₂.definitions, lineFeed ∉ d.code) →
      (Artifact.textOf Artifact.stylesName (Styling.collate e₁) =
          Artifact.textOf Artifact.stylesName (Styling.collate e₂) ↔
        e₁.definitions.map Item.numbered = e₂.definitions.map Item.numbered) := by
  constructor
  · intro e₁ e₂ s₁ s₂ helement hflat₁ hflat₂
    rw [Markup.textOf_collate, Markup.textOf_collate, helement]
    constructor
    · intro h
      apply Text.map_inj_of_join_eq (Markup.containerOf_injective s₂.sceneElement.plain)
      · exact fun p hp => Markup.count_containerOf _ (hflat₁ p hp)
      · exact fun p hp => Markup.count_containerOf _ (hflat₂ p hp)
      · split_ifs at h with h₁ h₂ h₂
        · rw [h₁, h₂]
        · exact Option.some.inj h
    · intro h
      rw [h]
  · intro e₁ e₂ hflat₁ hflat₂
    rw [Styling.textOf_collate, Styling.textOf_collate, Option.some_inj]
    constructor
    · apply Text.map_inj_of_join_eq Styling.blockOf_injective
      · exact List.forall_mem_map.mpr fun d hd => Styling.count_blockOf (hflat₁ d hd)
      · exact List.forall_mem_map.mpr fun d hd => Styling.count_blockOf (hflat₂ d hd)
    · intro h
      rw [h]

/-- A scene and a definition that go on as if another had begun in them, with something before
it. -/
def posing (gap : Text) : Extraction :=
  ⟨[⟨0, [], "a</p>" ++ gap ++ "<p scene=\"2\">b", .eval⟩],
    [⟨0, [], gap ++ "/* Kram: CSS in Scene 2 */" ++ gap, .eval⟩]⟩

/-- Two scenes and two definitions. -/
def posed : Extraction :=
  ⟨[⟨0, [], "a", .eval⟩, ⟨1, [], "b", .eval⟩], [⟨0, [], [], .eval⟩, ⟨1, [], [], .eval⟩]⟩

/-- What poses as another scene or definition is told from it, but not if it has line feeds. -/
theorem provenance_told_posing :
    let s : Settings := { (default : Settings) with sceneElement := .text "p" }
    let page (e : Extraction) := Artifact.textOf Artifact.scenesName (Markup.collate e s)
    let sheet (e : Extraction) := Artifact.textOf Artifact.stylesName (Styling.collate e)
    page (posing []) ≠ page posed ∧ sheet (posing []) ≠ sheet posed ∧
      page (posing "\n") = page posed ∧ sheet (posing "\n") = sheet posed := by
  intro s page sheet
  obtain ⟨hpages, hsheets⟩ := provenance_told
  refine ⟨?_, ?_, rfl, rfl⟩
  · intro h
    have hscenes := (hpages (posing []) posed s s rfl (by decide) (by decide)).mp h
    exact absurd (congrArg List.length hscenes) (by decide)
  · intro h
    have hdefinitions := (hsheets (posing []) posed (by decide) (by decide)).mp h
    exact absurd (congrArg List.length hdefinitions) (by decide)

end SceneBook
