import SceneBook.Proofs.Registry.Classification
import SceneBook.Proofs.Text.Lines
import SceneBook.Proofs.Workbook.Partition

/-!
# Hoisted styling

Styling has no place of its own in a scene: a fragment of it is in the artifact when it is stored as
a definition, and else it is lost. So the artifact has every styling fragment exactly if none is
without a verdict or stored as an evaluation, which holds once the fragments are classified anew.
-/

namespace SceneBook

namespace Text

variable {ls ts : List Text}

private theorem length_unlines_of_sublist (h : ls.Sublist ts) :
    (unlines ls).length + ts.length ≤ (unlines ts).length + ls.length := by
  induction h with
  | slnil => exact Nat.le_refl _
  | cons t _ ih =>
    rw [unlines_cons, List.length_append, List.length_append, List.length_cons]
    have hlineFeed : ("\n" : Text).length = 1 := rfl
    omega
  | cons_cons t _ ih =>
    simp only [unlines_cons, List.length_append, List.length_cons]
    omega

/-- Leaving a text that is not empty out of a list shows when the list is joined. -/
theorem eq_of_sublist_of_join_eq (h : ls.Sublist ts) (hne : ∀ t ∈ ts, t ≠ [])
    (heq : join "\n" ls = join "\n" ts) : ls = ts := by
  cases ls with
  | nil =>
    cases ts with
    | nil => rfl
    | cons t rest =>
      obtain ⟨c, cs, rfl⟩ := List.exists_cons_of_ne_nil (hne t (by simp))
      cases rest <;> cases heq
  | cons l rest =>
    have hts : ts ≠ [] := by
      rintro rfl
      cases h
    have hlines := unlines_eq_of_join_eq (List.cons_ne_nil l rest) hts heq
    have hlength := length_unlines_of_sublist h
    rw [hlines] at hlength
    exact h.eq_of_length_le (by omega)

end Text

namespace Workbook

/-- The styling fragments in document order, each with the index of its scene. -/
def stylings (w : Workbook) : List (Int × Fragment) :=
  w.scenes.flatMap fun s =>
    (s.fragments.filter fun f => f.language = Language.css.tag).map fun f => (s.index, f)

/-- Every styling fragment is stored as a definition. -/
def HoistsStyling (w : Workbook) : Prop :=
  ∀ s ∈ w.scenes, ∀ f ∈ s.fragments, f.language = Language.css.tag → f.IsHoisted

instance (w : Workbook) : Decidable w.HoistsStyling :=
  inferInstanceAs (Decidable
    (∀ s ∈ w.scenes, ∀ f ∈ s.fragments, f.language = Language.css.tag → f.IsHoisted))

/-- No styling fragment is stored as an evaluation. -/
def EvaluatesNoStyling (w : Workbook) : Prop :=
  ∀ s ∈ w.scenes, ∀ f ∈ s.fragments, f.language = Language.css.tag →
    ∀ c ∈ f.classification, c.mode = .define

instance (w : Workbook) : Decidable w.EvaluatesNoStyling :=
  inferInstanceAs (Decidable (∀ s ∈ w.scenes, ∀ f ∈ s.fragments, f.language = Language.css.tag →
    ∀ c ∈ f.classification, c.mode = .define))

def styleBlock (p : Int × Fragment) : Text :=
  "/* Kram: CSS in Scene " ++ Text.ofInt (p.1 + 1) ++ " */\n" ++ p.2.code

/-- The artifact that has the given fragments and no others. -/
def styleSheet (fragments : List (Int × Fragment)) : Artifact :=
  ⟨"styles.css", "css", .define, Text.join "\n" (fragments.map styleBlock), none, none⟩

private theorem styleBlock_ne_nil (p : Int × Fragment) : styleBlock p ≠ [] := List.cons_ne_nil _ _

variable (w : Workbook)

private theorem mem_stylings {p : Int × Fragment} :
    p ∈ w.stylings ↔
      ∃ s ∈ w.scenes, ∃ f ∈ s.fragments, f.language = Language.css.tag ∧ p = (s.index, f) := by
  simp [stylings, List.mem_flatMap, List.mem_map, List.mem_filter, and_assoc, eq_comm]

private theorem hoistsStyling_iff : w.HoistsStyling ↔ ∀ p ∈ w.stylings, p.2.IsHoisted := by
  simp only [mem_stylings, HoistsStyling]
  constructor
  · rintro h _ ⟨s, hs, f, hf, hlanguage, rfl⟩
    exact h s hs f hf hlanguage
  · intro h s hs f hf hlanguage
    exact h _ ⟨s, hs, f, hf, hlanguage, rfl⟩

private theorem stylings_eq :
    w.stylings = w.placed.filter fun p => p.2.language = Language.css.tag := by
  simp [stylings, placed, List.filter_flatMap, List.filter_map, Function.comp_def]

private theorem definitions_css : (w.extract Language.css.tag).definitions =
    (w.stylings.filter fun p => p.2.IsHoisted).map fun p => Item.ofFragment p.1 p.2 := by
  rw [definitions_eq, stylings_eq, List.filter_filter]
  simp only [Bool.decide_and, Bool.and_comm]

private theorem scenes_css : (w.extract Language.css.tag).scenes =
    (w.stylings.filter fun p => ¬ p.2.IsHoisted).map fun p => Item.ofFragment p.1 p.2 := by
  rw [scenes_eq, stylings_eq, List.filter_filter]
  simp only [Bool.decide_and, Bool.and_comm]

private theorem scenes_css_eq_nil_iff :
    (w.extract Language.css.tag).scenes = [] ↔ w.HoistsStyling := by
  rw [scenes_css, List.map_eq_nil_iff, List.filter_eq_nil_iff, hoistsStyling_iff]
  simp

private theorem collate_css (s : Settings) : (Plugin.mk .css s).collate w =
    .ok [styleSheet (w.stylings.filter fun p => p.2.IsHoisted)] := by
  have hblock (p : Int × Fragment) :
      Styling.block (Item.ofFragment p.1 p.2) = styleBlock p := by
    rw [styleBlock, show (" */\n" : Text) = " */" ++ ("\n" : Text) from rfl]
    simp only [Styling.block, Styling.provenance, Item.ofFragment, Item.sceneNumber,
      List.append_assoc]
  have hcollate : (Plugin.mk .css s).collate w =
      .ok (Styling.collate (w.extract Language.css.tag)) := rfl
  rw [hcollate, Styling.collate, definitions_css, List.map_map]
  simp only [Function.comp_def, hblock]
  rfl

/-- Any fragment that is left out is missed in the artifact. -/
theorem styleSheet_filter_eq_iff :
    styleSheet (w.stylings.filter fun p => p.2.IsHoisted) = styleSheet w.stylings ↔
      w.HoistsStyling := by
  rw [hoistsStyling_iff]
  constructor
  · intro h
    let kept := w.stylings.filter fun p => p.2.IsHoisted
    have hsublist : (kept.map styleBlock).Sublist (w.stylings.map styleBlock) :=
      List.filter_sublist.map styleBlock
    have hne : ∀ t ∈ w.stylings.map styleBlock, t ≠ [] :=
      List.forall_mem_map.mpr fun p _ => styleBlock_ne_nil p
    have heq := Text.eq_of_sublist_of_join_eq hsublist hne (congrArg Artifact.code h)
    have hlength := congrArg List.length heq
    rw [List.length_map, List.length_map, List.length_filter_eq_length_iff] at hlength
    simpa using hlength
  · intro h
    rw [List.filter_eq_self.mpr]
    simpa using h

private theorem hoistsStyling_classifyWorkbook {r : Registry} {s : Settings}
    (hr : r.find? Language.css.tag = some ⟨.css, s⟩) (overwrite : Bool) :
    (r.classifyWorkbook overwrite w).HoistsStyling ↔ overwrite = true ∨ w.EvaluatesNoStyling := by
  have hfragment (f : Fragment) (hf : f.language = Language.css.tag) :
      (r.classifyFragment overwrite f).IsHoisted ↔
        overwrite = true ∨ ∀ c ∈ f.classification, c.mode = .define := by
    have hfind : r.find? f.language = some ⟨.css, s⟩ := hf ▸ hr
    have hverdict : ((Plugin.mk .css s).classify f.code).mode = .define := rfl
    rw [Fragment.IsHoisted, r.classifyFragment_classification overwrite hfind]
    cases overwrite with
    | true => simp [hverdict]
    | false => cases f.classification <;> simp [hverdict]
  simp only [HoistsStyling, EvaluatesNoStyling, Registry.classifyWorkbook, Registry.classifyScene,
    List.forall_mem_map, Registry.classifyFragment_language]
  constructor
  · intro h
    by_cases hall : overwrite = true
    · exact .inl hall
    · exact .inr fun sc hsc f hf hlanguage =>
        ((hfragment f hlanguage).mp (h sc hsc f hf hlanguage)).resolve_left hall
  · intro h sc hsc f hf hlanguage
    exact (hfragment f hlanguage).mpr (h.imp_right fun hkeeps => hkeeps sc hsc f hf hlanguage)

/-- The styling of a workbook has the fragments that are stored as definitions, each under the
number of its scene and in document order. It has every styling fragment exactly if all are stored
so, and exactly then no item of the styling stays in a scene. Classification makes it so, unless it
is told to keep the verdicts that are stored and one of them is an evaluation. -/
theorem styling_complete_iff (s : Settings) :
    (Plugin.mk .css s).collate w =
      .ok [styleSheet (w.stylings.filter fun p => p.2.IsHoisted)] ∧
    ((Plugin.mk .css s).collate w = .ok [styleSheet w.stylings] ↔ w.HoistsStyling) ∧
    ((w.extract Language.css.tag).scenes = [] ↔ w.HoistsStyling) ∧
    ∀ (r : Registry) (overwrite : Bool), r.find? Language.css.tag = some ⟨.css, s⟩ →
      ((r.classifyWorkbook overwrite w).HoistsStyling ↔
        overwrite = true ∨ w.EvaluatesNoStyling) := by
  refine ⟨w.collate_css s, ?_, w.scenes_css_eq_nil_iff, ?_⟩
  · rw [collate_css, ← styleSheet_filter_eq_iff]
    simp
  · intro r overwrite hr
    exact w.hoistsStyling_classifyWorkbook hr overwrite

/-- A style that no verdict is stored with. -/
def unclassifiedStyle : Workbook := build "main" [] [[⟨"css", "a\x7b\x7d", [], none⟩]]

theorem styling_complete_classified :
    (Registry.web default).find? Language.css.tag = some ⟨.css, default⟩ ∧
      ((Registry.web default).classifyWorkbook false unclassifiedStyle).HoistsStyling := by
  have hr : (Registry.web default).find? Language.css.tag = some ⟨.css, default⟩ := rfl
  obtain ⟨-, -, -, hclassified⟩ := styling_complete_iff unclassifiedStyle default
  exact ⟨hr, (hclassified (Registry.web default) false hr).mpr (.inr (by decide))⟩

/-- A style without a verdict stays in its scene, and the artifact is empty. -/
theorem unclassified_style_lost :
    (unclassifiedStyle.extract Language.css.tag).scenes ≠ [] ∧
    (Plugin.mk .css default).collate unclassifiedStyle = .ok [styleSheet []] ∧
    styleSheet [] ≠ styleSheet unclassifiedStyle.stylings := by
  have hlost : ¬ unclassifiedStyle.HoistsStyling := by decide
  exact ⟨hlost ∘ unclassifiedStyle.scenes_css_eq_nil_iff.mp, rfl, by decide⟩

end Workbook

end SceneBook
