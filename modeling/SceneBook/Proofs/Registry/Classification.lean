import SceneBook.Proofs.Language.Rows
import SceneBook.Proofs.Registry.Tags
import SceneBook.Proofs.Workbook.Extracting

/-!
# Classified workbooks

What classifying a workbook does to the fragments of one language, and when it cannot fail. The
other plugins of a registry have no say in it.
-/

namespace SceneBook

namespace Registry

/-- Whether the row that decides a fragment has a verdict on what it matches. A fragment that is not
asked for, or that no row decides, passes. -/
def Decides (r : Registry) (overwrite : Bool) (f : Fragment) : Prop :=
  ∀ p ∈ r.find? f.language, overwrite ∨ f.classification = none →
    ∀ row ∈ p.language.rows.find? (fun row => (row.opening f.code).isSome),
      ∀ m ∈ row.opening f.code, row.Decides p.language.lowercaseSubtype m

def DecidesAll (r : Registry) (overwrite : Bool) (w : Workbook) : Prop :=
  ∀ sc ∈ w.scenes, ∀ f ∈ sc.fragments, r.Decides overwrite f

variable (r : Registry) (overwrite : Bool)

@[simp] theorem classifyFragment_language (f : Fragment) :
    (r.classifyFragment overwrite f).language = f.language := by
  unfold classifyFragment
  split <;> rfl

@[simp] theorem classifyFragment_code (f : Fragment) :
    (r.classifyFragment overwrite f).code = f.code := by
  unfold classifyFragment
  split <;> rfl

theorem classifyFragment_of_not_mem {f : Fragment} (h : f.language ∉ r.tags) :
    r.classifyFragment overwrite f = f := by
  simp [classifyFragment, classifies, find?_eq_none_iff.mpr h]

/-- The verdict that is stored with a fragment depends on the plugin of its own language alone. -/
theorem classifyFragment_classification {f : Fragment} {p : Plugin}
    (h : r.find? f.language = some p) :
    (r.classifyFragment overwrite f).classification =
      if overwrite || f.classification.isNone then some (p.classify f.code)
      else f.classification := by
  cases hask : overwrite || f.classification.isNone <;>
    simp [classifyFragment, classifies, Option.filter, h, hask]

theorem fragmentsOf_classifyScene (sc : Scene) (tag : Text) :
    (r.classifyScene overwrite sc).fragmentsOf tag =
      (sc.fragmentsOf tag).map (r.classifyFragment overwrite) := by
  simp [Scene.fragmentsOf, classifyScene, List.filter_map, Function.comp_def]

theorem items_classifyWorkbook (w : Workbook) (tag : Text) :
    (r.classifyWorkbook overwrite w).items tag = w.scenes.flatMap fun sc =>
      (sc.fragmentsOf tag).map fun f =>
        Item.ofFragment sc.index (r.classifyFragment overwrite f) := by
  simp only [Workbook.items, classifyWorkbook, List.flatMap_map, fragmentsOf_classifyScene,
    List.map_map]
  rfl

theorem mem_classifies_iff {f : Fragment} {p : Plugin} : p ∈ r.classifies overwrite f ↔
    p ∈ r.find? f.language ∧ (overwrite = true ∨ f.classification = none) := by
  simp [classifies, Option.filter_eq_some_iff]

theorem decides_iff (f : Fragment) : r.Decides overwrite f ↔
    ∀ p ∈ r.classifies overwrite f, ∃ c, p.language.classify? f.code = .ok c := by
  simp only [Decides, mem_classifies_iff, and_imp, Language.classify?,
    Language.exists_classifyBy_iff]

instance (f : Fragment) : Decidable (r.Decides overwrite f) :=
  decidable_of_iff ((r.classifies overwrite f).all fun p => !p.language.isBrokenBy f.code) (by
    simp only [decides_iff, ← Language.isBrokenBy_eq_false_iff]
    cases r.classifies overwrite f <;> simp)

instance (w : Workbook) : Decidable (r.DecidesAll overwrite w) :=
  inferInstanceAs (Decidable (∀ sc ∈ w.scenes, ∀ f ∈ sc.fragments, r.Decides overwrite f))

private theorem classifyFragment?_eq_ok_iff (f f' : Fragment) :
    r.classifyFragment? overwrite f = .ok f' ↔
      r.Decides overwrite f ∧ r.classifyFragment overwrite f = f' := by
  rw [decides_iff, classifyFragment?, classifyFragment]
  cases r.classifies overwrite f with
  | none => simp
  | some p =>
    simp only [Option.mem_def, Option.some.injEq, forall_eq', Plugin.classify, Language.classify]
    cases p.language.classify? f.code <;> simp [Except.map]

private theorem classifyScene?_eq_ok_iff (sc sc' : Scene) :
    r.classifyScene? overwrite sc = .ok sc' ↔
      (∀ f ∈ sc.fragments, r.Decides overwrite f) ∧ r.classifyScene overwrite sc = sc' := by
  rw [classifyScene?, map_eq_ok_iff]
  simp only [mapM_eq_ok_map_iff (r.classifyFragment?_eq_ok_iff overwrite)]
  constructor
  · rintro ⟨fs, ⟨hall, rfl⟩, rfl⟩
    exact ⟨hall, rfl⟩
  · rintro ⟨hall, rfl⟩
    exact ⟨_, ⟨hall, rfl⟩, rfl⟩

/-- A workbook is classified when every row that has to decide can. -/
theorem classifyWorkbook?_eq_ok_iff {w w' : Workbook} :
    r.classifyWorkbook? overwrite w = .ok w' ↔
      r.DecidesAll overwrite w ∧ r.classifyWorkbook overwrite w = w' := by
  rw [classifyWorkbook?, map_eq_ok_iff]
  simp only [mapM_eq_ok_map_iff (r.classifyScene?_eq_ok_iff overwrite)]
  constructor
  · rintro ⟨scenes, ⟨hall, rfl⟩, rfl⟩
    exact ⟨hall, rfl⟩
  · rintro ⟨hall, rfl⟩
    exact ⟨_, ⟨hall, rfl⟩, rfl⟩

/-- There is no verdict for any fragment of a workbook where a row that has to decide cannot. -/
theorem exists_classifyWorkbook?_error {w : Workbook} (h : ¬ r.DecidesAll overwrite w) :
    ∃ e, r.classifyWorkbook? overwrite w = .error e := by
  cases hw : r.classifyWorkbook? overwrite w with
  | error e => exact ⟨e, rfl⟩
  | ok w' => exact absurd ((r.classifyWorkbook?_eq_ok_iff overwrite).mp hw).1 h

/-- A registry in which every row has a verdict on all that it matches classifies every workbook. -/
theorem classifyWorkbook?_eq_ok {r : Registry}
    (h : ∀ p ∈ r.plugins, ∀ row ∈ p.language.rows, row.Answers p.language.lowercaseSubtype)
    (w : Workbook) : r.classifyWorkbook? overwrite w = .ok (r.classifyWorkbook overwrite w) := by
  refine (r.classifyWorkbook?_eq_ok_iff overwrite).mpr ⟨fun sc _ f _ p hp _ row hrow => ?_, rfl⟩
  exact h p (mem_of_find? hp).1 row (List.mem_of_find?_eq_some hrow) f.code

theorem web_plugins (s : Settings) : (web s).plugins = Plugin.web s := rfl

theorem mem_web {s : Settings} {p : Plugin} (h : p ∈ (web s).plugins) :
    ∃ l ∈ Language.web, p = ⟨l, s⟩ := by
  rw [web_plugins] at h
  obtain ⟨l, hl, rfl⟩ := List.mem_map.mp h
  exact ⟨l, hl, rfl⟩

private theorem find?_web (s : Settings) {l : Language} (h : l ∈ Language.web) :
    (web s).find? l.tag = some ⟨l, s⟩ := by
  simp only [Language.web, List.mem_cons, List.not_mem_nil, or_false] at h
  rcases h with rfl | rfl | rfl | rfl <;> rfl

theorem web_answers (s : Settings) : ∀ p ∈ (web s).plugins, ∀ row ∈ p.language.rows,
    row.Answers p.language.lowercaseSubtype := by
  intro p hp
  obtain ⟨l, hl, rfl⟩ := mem_web hp
  exact Language.answers_web hl

/-- The item that a fragment of a web language becomes, with the verdict on its text. -/
theorem ofFragment_classified_web (s : Settings) {l : Language} (hl : l ∈ Language.web)
    {f : Fragment} (hf : f.language = l.tag) (index : Int) :
    Item.ofFragment index ((web s).classifyFragment true f) =
      ⟨index, f.attrs, f.code, l.classify f.code⟩ := by
  have hfind : (web s).find? f.language = some ⟨l, s⟩ := hf ▸ find?_web s hl
  simp [classifyFragment, classifies, Option.filter, hfind, Item.ofFragment, Plugin.classify]

/-- A fragment of a web language goes where its text classifies. -/
theorem mem_extract_classified_web (s : Settings) {l : Language} (hl : l ∈ Language.web)
    {w : Workbook} {sc : Scene} (hsc : sc ∈ w.scenes) {f : Fragment} (hf : f ∈ sc.fragments)
    (hlanguage : f.language = l.tag) :
    let item : Item := ⟨sc.index, f.attrs, f.code, l.classify f.code⟩
    let e := ((web s).classifyWorkbook true w).extract l.tag
    item ∈ if item.classification.isDefinition then e.definitions else e.scenes := by
  intro item e
  have hmem : item ∈ ((web s).classifyWorkbook true w).items l.tag := by
    have hwanted : f ∈ sc.fragmentsOf l.tag := List.mem_filter.mpr ⟨hf, decide_eq_true hlanguage⟩
    rw [items_classifyWorkbook]
    exact List.mem_flatMap.mpr ⟨sc, hsc, List.mem_map.mpr
      ⟨f, hwanted, ofFragment_classified_web s hl hlanguage sc.index⟩⟩
  split
  · next hdefine =>
    rw [Workbook.definitions_extract]
    exact List.mem_filter.mpr ⟨hmem, hdefine⟩
  · next heval =>
    rw [Workbook.scenes_extract]
    exact List.mem_filter.mpr ⟨hmem, by simpa using heval⟩

end Registry

end SceneBook
