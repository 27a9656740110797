import SceneBook.Collate.Plugin
import SceneBook.Proofs.Settings.Names
import SceneBook.Proofs.Text.Decimal
import SceneBook.Proofs.Workbook.Grouping

/-!
# Containers of scenes

Each scene of a page stands in a container whose tags are named by the settings. What is accepted
for the name decides how many lines a container takes: one more than its scene has line feeds, and
two more if a line feed is in the name.
-/

namespace SceneBook

open Text (lineFeed lines)
open Settings (IsElementName IsIdentifierName UpToBreak)

namespace Markup

def containers (items : List Item) (element : Text) : List Text :=
  (Item.groupByScene "\n" items).map fun (index, code) =>
    wrapScene code (Text.ofInt (index + 1)) element

private theorem mem_collate_scenesName {e : Extraction} {s : Settings} {a : Artifact} :
    a ∈ collate e s ∧ a.name = Artifact.scenesName ↔
      e.scenes ≠ [] ∧ a = ⟨Artifact.scenesName, "html", .eval,
        Text.join "\n" (containers e.scenes s.sceneElement.plain), none, none⟩ := by
  have htemplates : ∀ a ∈ templates e.definitions, a.name ≠ Artifact.scenesName := by
    unfold templates
    split
    · simp
    · intro a ha
      rw [List.mem_singleton.mp ha]
      exact (by decide : Artifact.templatesName ≠ Artifact.scenesName)
  have hscenes : a ∈ scenes e.scenes s.sceneElement.plain ↔
      e.scenes ≠ [] ∧ a = ⟨Artifact.scenesName, "html", .eval,
        Text.join "\n" (containers e.scenes s.sceneElement.plain), none, none⟩ := by
    unfold scenes
    split <;> simp_all [containers]
  rw [collate, List.mem_append, ← hscenes]
  constructor
  · rintro ⟨ha | ha, hname⟩
    · exact absurd hname (htemplates a ha)
    · exact ha
  · intro ha
    refine ⟨.inr ha, ?_⟩
    rw [(hscenes.mp ha).2]

/-- The tags of a container have the element in them twice, and a number has no line feed. -/
theorem length_lines_wrapScene (code element : Text) (index : Int) :
    (lines (wrapScene code (Text.ofInt index) element)).length =
      code.count lineFeed + 2 * element.count lineFeed + 1 := by
  have hnumber : (Text.ofInt index).count lineFeed = 0 :=
    Text.count_ofInt (by decide) (by decide) index
  have htags : ("<" : Text).count lineFeed = 0 ∧ (" scene=\"" : Text).count lineFeed = 0 ∧
      ("\">" : Text).count lineFeed = 0 ∧ ("</" : Text).count lineFeed = 0 ∧
      (">" : Text).count lineFeed = 0 := by decide
  simp only [Text.length_lines, wrapScene, List.count_append, hnumber, htags]
  omega

private theorem lines_page {items : List Item} (element : Text) (h : items ≠ []) :
    lines (Text.join "\n" (containers items element)) =
      (containers items element).flatMap lines := by
  refine Text.lines_join ?_
  simpa [containers, Item.groupByScene_eq_nil_iff] using h

end Markup

namespace Settings

/-- Settings are accepted exactly if the scene element and the root key are names, each possibly
with one line feed after it, and the namespace is a text that is not empty. The accepted element is
a name exactly if no blank is in it, and exactly then the container of a scene takes one line; it
takes three lines if a line feed ends the element, and in each case one more for every line feed in
the scene. -/
theorem accepted_iff_names (s : Settings) :
    (s.fault? = none ↔
      (∃ element, s.sceneElement = .text element ∧ UpToBreak IsElementName element) ∧
      (∃ rootKey, s.storeRootKey = .text rootKey ∧ UpToBreak IsIdentifierName rootKey) ∧
      ∃ nameSpace, s.svgNamespace = .text nameSpace ∧ nameSpace ≠ []) ∧
    (s.fault? = none → ∃ element, s.sceneElement = .text element ∧
      (IsElementName element ↔ ∀ c ∈ element, c.isBlank = false) ∧
      ∀ (l : Language) (w : Workbook) (e : Extraction), l.medium = .markup → ∃ as,
        (Plugin.mk l s).collateExtraction w e = .ok as ∧
        (e.scenes ≠ [] → ∃ a ∈ as, a.name = Artifact.scenesName) ∧
        ∀ a ∈ as, a.name = Artifact.scenesName →
          lines a.code = (Markup.containers e.scenes element).flatMap lines ∧
          ∀ index code, (index, code) ∈ Item.groupByScene "\n" e.scenes →
            (lines (Markup.wrapScene code (Text.ofInt (index + 1)) element)).length =
              code.count lineFeed + if IsElementName element then 1 else 3) := by
  have haccepted := fault?_eq_none_iff (s := s)
  rw [okElement_iff, okRootKey_iff, okNamespace_iff] at haccepted
  refine ⟨haccepted, fun h => ?_⟩
  obtain ⟨⟨element, helement, hname⟩, -, -⟩ := haccepted.mp h
  refine ⟨element, helement, hname.isElementName_iff_not_isBlank, fun l w e hmarkup => ?_⟩
  refine ⟨Markup.collate e s, ?_, ?_, ?_⟩
  · rw [Plugin.collateExtraction, hmarkup]
    rfl
  · intro hscenes
    exact ⟨_, Markup.mem_collate_scenesName.mpr ⟨hscenes, rfl⟩⟩
  · intro a ha hpage
    obtain ⟨hscenes, rfl⟩ := Markup.mem_collate_scenesName.mp ⟨ha, hpage⟩
    rw [helement]
    refine ⟨Markup.lines_page element hscenes, fun index code _ => ?_⟩
    rw [Markup.length_lines_wrapScene, hname.count_lineFeed]
    split <;> rfl

/-- Under the default settings a page has as many lines as scenes without line feeds. -/
theorem accepted_iff_names_default :
    let e : Extraction := ⟨[⟨0, [], "<p>", .eval⟩, ⟨2, [], "<b>", .eval⟩], []⟩
    Settings.default.fault? = none ∧ Language.html.medium = .markup ∧ e.scenes ≠ [] ∧
      ∃ as, (Plugin.mk .html .default).collateExtraction ⟨"main", [], []⟩ e = .ok as ∧
        ∃ a ∈ as, a.name = Artifact.scenesName ∧ (lines a.code).length = 2 := by
  intro e
  have haccepted : Settings.default.fault? = none := by decide +kernel
  have hscenes : e.scenes ≠ [] := List.cons_ne_nil _ _
  refine ⟨haccepted, rfl, hscenes, ?_⟩
  obtain ⟨-, hpages⟩ := accepted_iff_names Settings.default
  obtain ⟨element, helement, -, hpage⟩ := hpages haccepted
  obtain ⟨as, has, hexists, hlines⟩ := hpage .html ⟨"main", [], []⟩ e rfl
  obtain ⟨a, ha, hname⟩ := hexists hscenes
  cases helement
  refine ⟨as, has, a, ha, hname, ?_⟩
  rw [(hlines a ha hname).1]
  decide +kernel

/-- An element and a root key that are no names are accepted with a line feed at the end, and a
scene without line feeds takes three lines. -/
theorem brokenElement_accepted :
    let s : Settings :=
      { default with sceneElement := .text "kram-scene\n", storeRootKey := .text "root\n" }
    let page : Text := "<kram-scene\n scene=\"1\"><p></kram-scene\n>"
    s.fault? = none ∧ ¬ IsElementName "kram-scene\n" ∧ ¬ IsIdentifierName "root\n" ∧
      (Plugin.mk .html s).collate ⟨"main", [⟨0, [⟨"html", "<p>", [], none⟩]⟩], []⟩ =
        .ok [⟨Artifact.scenesName, "html", .eval, page, none, none⟩] ∧
      lineFeed ∉ ("<p>" : Text) ∧ (lines page).length = 3 := by
  intro s page
  exact ⟨by decide +kernel, by decide +kernel, by decide +kernel, rfl, by decide, by decide⟩

end Settings

end SceneBook
