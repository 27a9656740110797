import SceneBook.Proofs.Collate.Readings
import SceneBook.Proofs.Registry.Classification

/-!
# Languages keep out of each other

What a language is collated into depends on its own fragments alone. Two workbooks may differ in
everything else, and two registries in every other plugin.
-/

namespace SceneBook

namespace Workbook

/-- What a workbook holds of one language: the scenes with a fragment of it, by index, each with the
codes and the stored verdicts of these fragments. -/
def projection (w : Workbook) (tag : Text) : List (Int × List (Text × Option Classification)) :=
  (w.scenes.map fun sc =>
    (sc.index, (sc.fragmentsOf tag).map fun f => (f.code, f.classification))).filter
      fun g => !g.2.isEmpty

/-- What a scripting module takes from a workbook besides the fragments. -/
structure SameFrame (w₁ w₂ : Workbook) : Prop where
  moduleName : w₁.moduleName = w₂.moduleName
  imports : w₁.imports = w₂.imports
  sceneCount : w₁.sceneCount = w₂.sceneCount

end Workbook

namespace Registry

/-- Classifies a workbook and collates one language of it. -/
def collateClassified (r : Registry) (overwrite : Bool) (tag : Text) (w : Workbook) :
    Except Failure (List Artifact) := do
  let classified ← (r.classifyWorkbook? overwrite w).mapError .misuse
  let p ← (r.get tag).mapError .report
  p.collate classified

end Registry

def Item.bare (i : Item) : Item := { i with attrs := [] }

def Extraction.bare (e : Extraction) : Extraction :=
  ⟨e.scenes.map Item.bare, e.definitions.map Item.bare⟩

section

variable (items : List Item)

private theorem Item.groupByScene_bare (separator : Text) :
    groupByScene separator (items.map bare) = groupByScene separator items := by
  have hindices : indices (items.map bare) = indices items := by
    rw [indices, List.map_map]
    rfl
  have hcode (i : Int) : codeAt separator i (items.map bare) = codeAt separator i items := by
    simp only [codeAt, List.filter_map, List.map_map]
    rfl
  simp only [groupByScene_eq, hindices, hcode]

private theorem Item.codes_bare : (items.map bare).map code = items.map code := by
  rw [List.map_map]
  rfl

end

section

variable (e : Extraction) (s : Settings)

private theorem Medium.hoisted_bare (m : Medium) (definitions : List Item) :
    m.hoisted (definitions.map Item.bare) = m.hoisted definitions := by
  cases m with
  | markup | graphics => simp only [hoisted, Item.codes_bare, List.isEmpty_map]
  | styling =>
    simp only [hoisted, List.map_map]
    rfl
  | scripting =>
    simp only [hoisted, List.flatMap_map]
    rfl

private theorem Medium.collate_bare (m : Medium) (w : Workbook) :
    m.collate w e.bare s = m.collate w e s := by
  apply Extraction.Alike.collate_eq
  exact ⟨Item.groupByScene_bare e.scenes "\n", m.hoisted_bare e.definitions⟩

/-- Only scripting looks at a workbook beside the extraction, and there at nothing but the frame. -/
theorem Medium.collate_frame {m : Medium} {w₁ w₂ : Workbook}
    (h : m = .scripting → w₁.SameFrame w₂) : m.collate w₁ e s = m.collate w₂ e s := by
  cases m with
  | markup | styling | graphics => rfl
  | scripting =>
    obtain ⟨hname, himports, hcount⟩ := h rfl
    have hspan : w₁.span e = w₂.span e := by simp only [Workbook.span, hcount]
    simp only [Medium.collate, Scripting.collate, Scripting.assemble, Scripting.parts, hname,
      himports, hspan]

end

section

variable (tag : Text)

private theorem Workbook.items_bare (w : Workbook) :
    (w.items tag).map Item.bare = (w.projection tag).flatMap fun g =>
      g.2.map fun c => ⟨g.1, [], c.1, c.2.getD .eval⟩ := by
  unfold Workbook.items Workbook.projection
  induction w.scenes with
  | nil => rfl
  | cons sc rest ih =>
    rw [List.flatMap_cons, List.map_append, ih, List.map_cons, List.filter_cons]
    cases hown : sc.fragmentsOf tag with
    | nil => rfl
    | cons f fs =>
      simp only [List.map_cons, List.isEmpty_cons, Bool.not_false, if_true, List.flatMap_cons,
        List.map_map]
      rfl

private theorem Workbook.extract_bare (w : Workbook) :
    (w.extract tag).bare =
      ⟨((w.items tag).map Item.bare).filter fun i => !i.classification.isDefinition,
        ((w.items tag).map Item.bare).filter fun i => i.classification.isDefinition⟩ := by
  simp only [Workbook.extract_eq_filter, Extraction.bare, List.filter_map]
  rfl

private theorem Workbook.extract_bare_congr {w₁ w₂ : Workbook}
    (h : w₁.projection tag = w₂.projection tag) :
    (w₁.extract tag).bare = (w₂.extract tag).bare := by
  have hitems : (w₁.items tag).map Item.bare = (w₂.items tag).map Item.bare := by
    rw [items_bare, items_bare, h]
  rw [extract_bare, extract_bare, hitems]

/-- The projection of a classified workbook is that of the workbook, with the verdicts of the one
plugin that has the tag. -/
theorem Registry.projection_classifyWorkbook {r : Registry} (overwrite : Bool) {p : Plugin}
    (h : r.find? tag = some p) (w : Workbook) :
    (r.classifyWorkbook overwrite w).projection tag = (w.projection tag).map fun g =>
      (g.1, g.2.map fun c =>
        (c.1, if overwrite || c.2.isNone then some (p.classify c.1) else c.2)) := by
  have hscene (sc : Scene) : ((r.classifyScene overwrite sc).fragmentsOf tag).map
      (fun f => (f.code, f.classification)) =
        ((sc.fragmentsOf tag).map fun f => (f.code, f.classification)).map fun c =>
          (c.1, if overwrite || c.2.isNone then some (p.classify c.1) else c.2) := by
    rw [fragmentsOf_classifyScene, List.map_map, List.map_map]
    refine List.map_congr_left fun f hf => ?_
    have hlanguage : f.language = tag := by simpa using (List.mem_filter.mp hf).2
    have hverdict := classifyFragment_classification r overwrite (hlanguage ▸ h)
    simp only [Function.comp_apply, classifyFragment_code, hverdict]
  unfold Workbook.projection Registry.classifyWorkbook
  simp only [List.map_map, List.filter_map, Function.comp_def, hscene, List.isEmpty_map]
  rfl

end

private theorem Plugin.collate_congr (p : Plugin) {w₁ w₂ : Workbook}
    (h : w₁.projection p.tag = w₂.projection p.tag)
    (hframe : p.language.medium = .scripting → w₁.SameFrame w₂) :
    p.collate w₁ = p.collate w₂ := by
  unfold Plugin.collate Plugin.collateExtraction
  rw [← Medium.collate_bare, Workbook.extract_bare_congr _ h, Medium.collate_bare]
  exact Medium.collate_frame _ _ hframe

namespace Registry

variable {r : Registry} {overwrite : Bool} {tag : Text} {p : Plugin} {w : Workbook}

private theorem collateClassified_eq (hfind : r.find? tag = some p) (h : r.DecidesAll overwrite w) :
    r.collateClassified overwrite tag w = p.collate (r.classifyWorkbook overwrite w) := by
  have hclassified := (r.classifyWorkbook?_eq_ok_iff overwrite).mpr ⟨h, rfl⟩
  unfold collateClassified Registry.get Registry.getBy
  rw [hclassified, hfind]
  rfl

private theorem collateClassified_error (h : ¬ r.DecidesAll overwrite w) :
    ∃ e, r.collateClassified overwrite tag w = .error (.misuse e) := by
  obtain ⟨e, he⟩ := r.exists_classifyWorkbook?_error overwrite h
  unfold collateClassified
  rw [he]
  exact ⟨e, rfl⟩

end Registry

private theorem Language.js_of_scripting {l : Language} (hl : l ∈ Language.web)
    (h : l.medium = .scripting) : l = Language.js := by
  simp only [Language.web, List.mem_cons, List.not_mem_nil, or_false] at hl
  rcases hl with rfl | rfl | rfl | rfl
  · cases h
  · cases h
  · cases h
  · rfl

/-- Workbooks that agree on one web language are collated alike in it, as they are and after
classifying, whatever else they hold and whatever other plugins there are. The one thing another
plugin can do is to keep a workbook from being classified. -/
theorem collate_separated (s : Settings) {l : Language} (hl : l ∈ Language.web)
    {w₁ w₂ : Workbook} (hown : w₁.projection l.tag = w₂.projection l.tag)
    (hframe : l = Language.js → w₁.SameFrame w₂) :
    Plugin.collate ⟨l, s⟩ w₁ = Plugin.collate ⟨l, s⟩ w₂ ∧
    ∀ (r₁ r₂ : Registry) (overwrite : Bool),
      r₁.find? l.tag = some ⟨l, s⟩ → r₂.find? l.tag = some ⟨l, s⟩ →
      (r₁.DecidesAll overwrite w₁ → r₂.DecidesAll overwrite w₂ →
        r₁.collateClassified overwrite l.tag w₁ = r₂.collateClassified overwrite l.tag w₂) ∧
      (¬ r₁.DecidesAll overwrite w₁ →
        ∃ e, r₁.collateClassified overwrite l.tag w₁ = .error (.misuse e)) := by
  have hscript : l.medium = .scripting → w₁.SameFrame w₂ := fun h =>
    hframe (Language.js_of_scripting hl h)
  refine ⟨Plugin.collate_congr ⟨l, s⟩ hown hscript, fun r₁ r₂ overwrite hfind₁ hfind₂ =>
    ⟨fun hall₁ hall₂ => ?_, Registry.collateClassified_error⟩⟩
  rw [Registry.collateClassified_eq hfind₁ hall₁, Registry.collateClassified_eq hfind₂ hall₂]
  refine Plugin.collate_congr ⟨l, s⟩ ?_ fun h => ?_
  · -- Both registries take the verdicts of the language from the same plugin.
    change _ = (r₂.classifyWorkbook overwrite w₂).projection l.tag
    rw [Registry.projection_classifyWorkbook l.tag overwrite hfind₂, ← hown]
    exact Registry.projection_classifyWorkbook l.tag overwrite hfind₁ w₁
  · obtain ⟨hname, himports, hcount⟩ := hscript h
    exact ⟨hname, himports, by simpa [Registry.classifyWorkbook, Workbook.sceneCount] using hcount⟩

/-- A language whose only row wants a name from a part that no capture has. -/
def nameless : Language :=
  ⟨"md", "Notes", .markup, [⟨(Opening.keyword "let").pattern, some "note", none, some .missing⟩],
    .eval, false⟩

/-- The web registry with the plugin of one more language. -/
def webWith (l : Language) (h : (⟨l, default⟩ : Plugin).tag ∉ (Registry.web default).tags) :
    Registry :=
  ⟨(Registry.web default).plugins ++ [⟨l, default⟩], Registry.tags_nodup_concat h⟩

/-- A paragraph, a scene without fragments, and a paragraph next to a note. -/
def notedWorkbook : Workbook :=
  ⟨"noted", [⟨0, [⟨"html", "<p>", [], none⟩]⟩, ⟨1, []⟩,
    ⟨2, [⟨"md", "let a", [], none⟩, ⟨"html", "<b>", [], none⟩]⟩], []⟩

/-- The same paragraphs alone, under another name and with an import that is refused. -/
def plainWorkbook : Workbook :=
  ⟨"plain", [⟨0, [⟨"html", "<p>", [], none⟩]⟩, ⟨2, [⟨"html", "<b>", [], none⟩]⟩],
    [.given .null]⟩

theorem collate_separated_noted :
    let r₁ := Registry.web default
    let r₂ := webWith nameless (by decide)
    r₁.find? "html" = some ⟨Language.html, default⟩ ∧
    r₂.find? "html" = some ⟨Language.html, default⟩ ∧
    notedWorkbook.projection "html" = plainWorkbook.projection "html" ∧
    r₁.DecidesAll false notedWorkbook ∧ r₂.DecidesAll false plainWorkbook ∧
    r₁.collateClassified false "html" notedWorkbook =
      r₂.collateClassified false "html" plainWorkbook := by
  intro r₁ r₂
  have hfind₁ : r₁.find? "html" = some ⟨Language.html, default⟩ := by rfl
  have hfind₂ : r₂.find? "html" = some ⟨Language.html, default⟩ := by rfl
  have hown : notedWorkbook.projection "html" = plainWorkbook.projection "html" := by decide
  have hall₁ : r₁.DecidesAll false notedWorkbook := by decide
  have hall₂ : r₂.DecidesAll false plainWorkbook := by decide
  have hother : Language.html = Language.js → notedWorkbook.SameFrame plainWorkbook :=
    fun h => absurd h (Language.ne_of_tag_ne (by decide))
  refine ⟨hfind₁, hfind₂, hown, hall₁, hall₂, ?_⟩
  exact ((collate_separated default Language.html_mem_web hown hother).2 r₁ r₂ false
    hfind₁ hfind₂).1 hall₁ hall₂

/-- A note keeps the paragraphs from being collated, where the table of its language asks for a part
that is missing. Without the note they are. -/
theorem nameless_interferes :
    let r := webWith nameless (by decide)
    r.find? "html" = some ⟨Language.html, default⟩ ∧
    notedWorkbook.projection "html" = plainWorkbook.projection "html" ∧
    r.collateClassified false "html" notedWorkbook ≠
      r.collateClassified false "html" plainWorkbook := by
  intro r
  have hnoted : r.collateClassified false "html" notedWorkbook =
      .error (.misuse .noSuchRow) := by rfl
  obtain ⟨artifacts, hplain⟩ : ∃ as, r.collateClassified false "html" plainWorkbook = .ok as :=
    ⟨_, by rfl⟩
  refine ⟨by rfl, by decide, ?_⟩
  rw [hnoted, hplain]
  exact nofun

end SceneBook
