import SceneBook.Proofs.Workbook.Extracting
import SceneBook.Proofs.Workbook.Numbering
import Mathlib.Algebra.BigOperators.Group.List.Lemmas
import Mathlib.Algebra.GroupWithZero.Nat
import Mathlib.Data.List.Induction

/-!
# Extraction without loss

Every fragment of a workbook is extracted once: for its own language, and there as a definition or
as an item of its scene, by the verdict that is stored with it. The extractions of all languages
that are in use have all fragments of the workbook between them.
-/

namespace SceneBook

section

variable {α : Type} [beq : BEq α] [LawfulBEq α]

private theorem eraseDups_concat (l : List α) (b : α) :
    (l ++ [b]).eraseDups = if b ∈ l then l.eraseDups else l.eraseDups ++ [b] := by
  rw [List.eraseDups_append]
  by_cases h : b ∈ l <;> simp [List.removeAll, List.eraseDups_cons, h]

/-- What is left without repetitions is in the order of the first occurrences. -/
theorem pairwise_idxOf_eraseDups (l : List α) :
    l.eraseDups.Pairwise fun a b => l.idxOf a < l.idxOf b := by
  induction l using List.reverseRecOn with
  | nil => exact List.Pairwise.nil
  | append_singleton l b ih =>
    have hold : ∀ a ∈ l, (l ++ [b]).idxOf a = l.idxOf a := by
      intro a ha
      exact List.idxOf_append_of_mem ha
    have hlater : l.eraseDups.Pairwise fun a c => (l ++ [b]).idxOf a < (l ++ [b]).idxOf c := by
      apply ih.imp_of_mem
      intro a c ha hc hlt
      rwa [hold a (List.mem_eraseDups.mp ha), hold c (List.mem_eraseDups.mp hc)]
    rw [eraseDups_concat]
    by_cases h : b ∈ l
    · rwa [if_pos h]
    · rw [if_neg h, List.pairwise_append]
      refine ⟨hlater, List.pairwise_singleton _ _, ?_⟩
      intro a ha c hc
      have hmem : a ∈ l := List.mem_eraseDups.mp ha
      rw [List.mem_singleton.mp hc, hold a hmem, List.idxOf_append_of_notMem h]
      exact (List.idxOf_lt_length_iff.mpr hmem).trans_le (Nat.le_add_right _ _)

private theorem nodup_eraseDups (l : List α) : l.eraseDups.Nodup := by
  apply (pairwise_idxOf_eraseDups l).imp
  rintro a b hlt rfl
  exact Nat.lt_irrefl _ hlt

private theorem sum_count_eraseDups (l : List α) :
    (l.eraseDups.map fun a => l.count a).sum = l.length := by
  classical
  obtain rfl : beq = instBEqOfDecidableEq := lawful_beq_subsingleton _ _
  have hperm : l.eraseDups.Perm l.dedup := by
    rw [List.perm_ext_iff_of_nodup (nodup_eraseDups l) l.nodup_dedup]
    intro a
    rw [List.mem_eraseDups, List.mem_dedup]
  rw [(hperm.map _).sum_eq]
  exact l.sum_map_count_dedup_eq_length

end

/-- A verdict is stored with the fragment, and it is that of a definition. -/
def Fragment.IsHoisted (f : Fragment) : Prop := ∃ c ∈ f.classification, c.mode = .define

instance (f : Fragment) : Decidable f.IsHoisted :=
  decidable_of_iff (f.classification.any fun c => c.mode = .define) (by
    simp [Fragment.IsHoisted, Option.any_eq_true])

private theorem Item.isDefinition_ofFragment (index : Int) (f : Fragment) :
    (ofFragment index f).classification.isDefinition = decide f.IsHoisted := by
  rw [Bool.eq_iff_iff, decide_eq_true_iff]
  unfold ofFragment Classification.isDefinition Fragment.IsHoisted
  cases f.classification with
  | none => simp [Classification.eval]
  | some c => simp

namespace Workbook

def placed (w : Workbook) : List (Int × Fragment) :=
  w.scenes.flatMap fun sc => sc.fragments.map fun f => (sc.index, f)

section

variable (w : Workbook) (tag : Text)

private theorem length_placed :
    w.placed.length = (w.scenes.map fun sc => sc.fragments.length).sum := by
  simp [placed, List.length_flatMap]

private theorem items_eq : w.items tag =
    (w.placed.filter fun p => p.2.language = tag).map fun p => Item.ofFragment p.1 p.2 := by
  simp [items, placed, Scene.fragmentsOf, List.filter_flatMap, List.filter_map, List.map_flatMap,
    List.map_map, Function.comp_def]

theorem definitions_eq : (w.extract tag).definitions =
    (w.placed.filter fun p => p.2.language = tag ∧ p.2.IsHoisted).map fun p =>
      Item.ofFragment p.1 p.2 := by
  rw [definitions_extract, items_eq, List.filter_map, List.filter_filter]
  simp only [Function.comp_def, Item.isDefinition_ofFragment, ← Bool.decide_and, and_comm]

theorem scenes_eq : (w.extract tag).scenes =
    (w.placed.filter fun p => p.2.language = tag ∧ ¬ p.2.IsHoisted).map fun p =>
      Item.ofFragment p.1 p.2 := by
  rw [scenes_extract, items_eq, List.filter_map, List.filter_filter]
  simp only [Function.comp_def, Item.isDefinition_ofFragment, ← decide_not, ← Bool.decide_and,
    and_comm]

private theorem languages_eq : w.languages = (w.placed.map fun p => p.2.language).eraseDups := by
  simp [languages, placed, List.map_flatMap, List.map_map, Function.comp_def]

/-- An extraction has the fragments of its language, one item for each. -/
theorem size_extract :
    (w.extract tag).size = (w.placed.map fun p => p.2.language).count tag := by
  have hsplit := List.length_eq_length_filter_add (l := w.items tag) fun i =>
    i.classification.isDefinition
  have hitems : (w.items tag).length = (w.placed.map fun p => p.2.language).count tag := by
    rw [items_eq, List.length_map, List.count_eq_length_filter, List.filter_map, List.length_map]
    simp only [Function.comp_def, beq_eq_decide]
  rw [Extraction.size, scenes_extract, definitions_extract, ← hitems]
  omega

private theorem mem_languages :
    tag ∈ w.languages ↔ ∃ sc ∈ w.scenes, ∃ f ∈ sc.fragments, f.language = tag := by
  simp only [languages, List.mem_eraseDups, List.mem_flatMap, List.mem_map]

private theorem extract_of_not_mem (h : tag ∉ w.languages) : w.extract tag = .empty := by
  have hnone : w.items tag = [] := by
    rw [items, List.flatMap_eq_nil_iff]
    intro sc hsc
    rw [List.map_eq_nil_iff, Scene.fragmentsOf, List.filter_eq_nil_iff]
    intro f hf hlanguage
    exact h ((w.mem_languages tag).mpr ⟨sc, hsc, f, hf, of_decide_eq_true hlanguage⟩)
  rw [extract_eq_filter, hnone]
  rfl

end

private theorem IsNumbered.pairwise_index {w : Workbook} (h : w.IsNumbered) :
    w.scenes.Pairwise fun a b => a.index ≤ b.index := by
  obtain ⟨moduleName, imports, scenes, rfl⟩ := h.eq_build
  change (scenesFrom 0 scenes).Pairwise _
  have hpositions : (scenes.zipIdx.map Prod.snd).Pairwise (· < ·) := by
    rw [List.zipIdx_map_snd]
    exact List.pairwise_lt_range'
  rw [scenesFrom_eq_zipIdx, List.pairwise_map]
  apply (List.pairwise_map.mp hpositions).imp
  intro p q hlt
  exact Int.ofNat_le.mpr hlt.le

private theorem pairwise_placed {w : Workbook}
    (h : w.scenes.Pairwise fun a b => a.index ≤ b.index) :
    w.placed.Pairwise fun p q => p.1 ≤ q.1 := by
  rw [placed, List.pairwise_flatMap]
  constructor
  · intro sc _
    rw [List.pairwise_map]
    exact List.pairwise_of_forall fun _ _ => Int.le_refl sc.index
  · apply h.imp
    intro a b hle p hp q hq
    obtain ⟨f, -, rfl⟩ := List.mem_map.mp hp
    obtain ⟨g, -, rfl⟩ := List.mem_map.mp hq
    exact hle

private theorem IsNumbered.pairwise_items {w : Workbook} (h : w.IsNumbered) (tag : Text) :
    (w.items tag).Pairwise fun x y => x.sceneIndex ≤ y.sceneIndex := by
  rw [items_eq, List.pairwise_map]
  exact (pairwise_placed h.pairwise_index).filter _

/-- The definitions of a language are its fragments that are stored as such, and its scene items all
others, in document order, each with what the fragment has, and as an evaluation if there is no
verdict. Every language in use is listed once, in the order of first use. What is extracted for them
is as much as there are fragments, and nothing is extracted for any other tag. In a numbered
workbook the items come in the order of their scenes. -/
theorem extract_lossless (w : Workbook) :
    (∀ tag,
      (w.extract tag).definitions =
        (w.placed.filter fun p => p.2.language = tag ∧ p.2.IsHoisted).map (fun p =>
          ⟨p.1, p.2.attrs, p.2.code, p.2.classification.getD .eval⟩) ∧
      (w.extract tag).scenes =
        (w.placed.filter fun p => p.2.language = tag ∧ ¬ p.2.IsHoisted).map fun p =>
          ⟨p.1, p.2.attrs, p.2.code, p.2.classification.getD .eval⟩) ∧
    w.languages.Nodup ∧
    (∀ tag, tag ∈ w.languages ↔ ∃ sc ∈ w.scenes, ∃ f ∈ sc.fragments, f.language = tag) ∧
    (w.languages.Pairwise fun a b =>
      (w.placed.map fun p => p.2.language).idxOf a < (w.placed.map fun p => p.2.language).idxOf b) ∧
    (w.languages.map fun tag => (w.extract tag).size).sum =
      (w.scenes.map fun sc => sc.fragments.length).sum ∧
    (∀ tag, tag ∉ w.languages → w.extract tag = .empty) ∧
    (w.IsNumbered → ∀ tag,
      ((w.extract tag).definitions.Pairwise fun x y => x.sceneIndex ≤ y.sceneIndex) ∧
      (w.extract tag).scenes.Pairwise fun x y => x.sceneIndex ≤ y.sceneIndex) := by
  have hlanguages := w.languages_eq
  refine ⟨?_, ?_, w.mem_languages, ?_, ?_, w.extract_of_not_mem, ?_⟩
  · intro tag
    exact ⟨w.definitions_eq tag, w.scenes_eq tag⟩
  · rw [hlanguages]
    exact nodup_eraseDups _
  · rw [hlanguages]
    exact pairwise_idxOf_eraseDups _
  · simp only [size_extract, ← length_placed, hlanguages]
    rw [sum_count_eraseDups, List.length_map]
  · intro hnumbered tag
    have hitems := hnumbered.pairwise_items tag
    rw [definitions_extract, scenes_extract]
    exact ⟨hitems.filter _, hitems.filter _⟩

/-- Three languages in turns, with a scene that has none of them. -/
def patchwork : Workbook :=
  build "patchwork" [] [
    [⟨"md", "a", [], none⟩, ⟨"js", "let b", [], some ⟨.define, none, none⟩⟩,
      ⟨"md", "c", [], some ⟨.define, none, none⟩⟩],
    [],
    [⟨"css", "d", [], some .eval⟩, ⟨"md", "e", [], some .eval⟩]]

theorem extract_lossless_patchwork :
    patchwork.IsNumbered ∧ patchwork.languages = ["md", "js", "css"] ∧
      (patchwork.extract "md").scenes.map Item.sceneIndex = [0, 2] ∧
      (patchwork.extract "md").scenes.Pairwise fun x y => x.sceneIndex ≤ y.sceneIndex := by
  have hnumbered : patchwork.IsNumbered := .inl ⟨_, _, _, rfl⟩
  obtain ⟨-, -, -, -, -, -, hordered⟩ := extract_lossless patchwork
  exact ⟨hnumbered, by decide, by decide, (hordered hnumbered "md").2⟩

end Workbook

end SceneBook
