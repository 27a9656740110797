import SceneBook.Proofs.Collate.Readings

/-!
# Items in another order

Items may be extracted in any order. What is collated goes by their scene indices: only the order of
the items within one scene is read, so that collating is the same as after sorting by scene.
-/

namespace SceneBook

namespace Item

/-- The same items in an order that may be another, but not for the items of one scene. -/
structure Reorders (xs ys : List Item) : Prop where
  perm : xs.Perm ys
  scene (index : Int) :
    (xs.filter fun x => x.sceneIndex = index) = ys.filter fun y => y.sceneIndex = index

/-- The items in the order of their scenes, and those of one scene in the order of the list. -/
def bySceneOrder (items : List Item) : List Item :=
  items.mergeSort fun x y => x.sceneIndex ≤ y.sceneIndex

variable {xs ys : List Item}

private theorem Reorders.groupByScene (h : Reorders xs ys) (separator : Text) :
    Item.groupByScene separator xs = Item.groupByScene separator ys := by
  rw [groupByScene_eq_iff, indices_eq_iff]
  constructor
  · intro index
    simp only [h.perm.mem_iff]
  · intro index
    rw [codeAt, codeAt, h.scene]

/-- Sorting is stable, so that it leaves the items of each scene in their order. -/
theorem reorders_bySceneOrder (items : List Item) : Reorders items (bySceneOrder items) := by
  have hperm : (bySceneOrder items).Perm items := items.mergeSort_perm _
  refine ⟨hperm.symm, fun index => ?_⟩
  let here : Item → Bool := fun x => x.sceneIndex = index
  have hsorted : (items.filter here).Pairwise fun x y => decide (x.sceneIndex ≤ y.sceneIndex) := by
    apply List.pairwise_of_forall_mem_list
    intro x hx y hy
    have hxi : x.sceneIndex = index := by simpa [here] using (List.mem_filter.mp hx).2
    have hyi : y.sceneIndex = index := by simpa [here] using (List.mem_filter.mp hy).2
    simp [hxi, hyi]
  have hsublist : (items.filter here).Sublist (bySceneOrder items) := by
    apply List.sublist_mergeSort
    · intro x y z hxy hyz
      simp only [decide_eq_true_eq] at hxy hyz ⊢
      exact hxy.trans hyz
    · intro x y
      simpa using Int.le_total x.sceneIndex y.sceneIndex
    · exact hsorted
    · exact List.filter_sublist
  have hfiltered : (items.filter here).Sublist ((bySceneOrder items).filter here) := by
    simpa using hsublist.filter here
  exact hfiltered.eq_of_length (hperm.filter here).length_eq.symm

private theorem reorders_swap (above below : List Item) {x y : Item}
    (h : x.sceneIndex ≠ y.sceneIndex) :
    Reorders (above ++ x :: y :: below) (above ++ y :: x :: below) where
  perm := (List.Perm.swap y x below).append_left above
  scene index := by
    by_cases hx : x.sceneIndex = index
    · have hy : y.sceneIndex ≠ index := fun hy => h (hx.trans hy.symm)
      simp [List.filter_append, hx, hy]
    · simp [List.filter_append, List.filter_cons, hx]

end Item

namespace Graphics

private theorem root_injective (nameSpace : Text) (hidden : Bool) :
    Function.Injective fun content => root content nameSpace hidden := by
  intro content content' h
  exact List.append_cancel_left (List.append_cancel_right h)

private theorem scene_injective (nameSpace : Text) :
    Function.Injective fun g : Int × Text => scene g.1 g.2 nameSpace := by
  intro g g' h
  have hnumber : g.1 + 1 = g'.1 + 1 := Option.some.inj (congrArg Artifact.scene h)
  apply Prod.ext
  · omega
  · exact root_injective nameSpace false (congrArg Artifact.code h)

private theorem collate_eq_iff {e₁ e₂ : Extraction} (h : e₁.definitions = e₂.definitions)
    (s : Settings) :
    collate e₁ s = collate e₂ s ↔
      Item.groupByScene "\n" e₁.scenes = Item.groupByScene "\n" e₂.scenes := by
  constructor
  · intro hcollate
    exact (scene_injective s.svgNamespace.plain).list_map (List.cons.inj hcollate).2
  · intro hscenes
    unfold collate
    rw [h, hscenes]

end Graphics

/-- Extractions with the same definitions, whose scene items are the same in each scene, are
collated alike by every medium, whatever order the scenes come in: as if the items had been sorted
by scene first. What does count is the code of each scene, by which drawings tell extractions
apart. -/
theorem collate_reordered (m : Medium) (w : Workbook) (s : Settings) {e₁ e₂ : Extraction}
    (hdefinitions : e₁.definitions = e₂.definitions)
    (hscenes : Item.Reorders e₁.scenes e₂.scenes) :
    m.collate w e₁ s = m.collate w e₂ s ∧
    m.collate w e₁ s = m.collate w ⟨Item.bySceneOrder e₁.scenes, e₁.definitions⟩ s ∧
    ∀ items, Graphics.collate e₁ s = Graphics.collate ⟨items, e₁.definitions⟩ s ↔
      Item.groupByScene "\n" e₁.scenes = Item.groupByScene "\n" items := by
  have halike {e : Extraction} (hhoisted : e₁.definitions = e.definitions)
      (hreorders : Item.Reorders e₁.scenes e.scenes) : m.collate w e₁ s = m.collate w e s := by
    apply Extraction.Alike.collate_eq
    exact ⟨hreorders.groupByScene "\n", congrArg m.hoisted hhoisted⟩
  refine ⟨halike hdefinitions hscenes, halike rfl (Item.reorders_bySceneOrder e₁.scenes), ?_⟩
  intro items
  have hsame : e₁.definitions = (⟨items, e₁.definitions⟩ : Extraction).definitions := rfl
  exact Graphics.collate_eq_iff hsame s

/-- Items of a late scene come before and after one of an early scene, and both are beyond the
scenes of the workbook. -/
theorem collate_reordered_interleaved :
    let late (code : Text) : Item := ⟨4, [], code, .eval⟩
    let early : Item := ⟨1, [], "b", .eval⟩
    let e₁ : Extraction := ⟨[late "a", early, late "c"], []⟩
    let e₂ : Extraction := ⟨[early, late "a", late "c"], []⟩
    e₁.definitions = e₂.definitions ∧ Item.Reorders e₁.scenes e₂.scenes ∧
      e₁.scenes.map Item.code ≠ e₂.scenes.map Item.code ∧
      ∀ m : Medium,
        m.collate ⟨"main", [], []⟩ e₁ default = m.collate ⟨"main", [], []⟩ e₂ default := by
  intro late early e₁ e₂
  have hreorders : Item.Reorders e₁.scenes e₂.scenes := by
    apply Item.reorders_swap [] [late "c"]
    decide
  have hdefinitions : e₁.definitions = e₂.definitions := rfl
  refine ⟨hdefinitions, hreorders, by decide, ?_⟩
  intro m
  exact (collate_reordered m ⟨"main", [], []⟩ default hdefinitions hreorders).1

end SceneBook
