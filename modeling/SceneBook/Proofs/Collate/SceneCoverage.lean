import SceneBook.Proofs.Collate.DispatchTable
import SceneBook.Proofs.Workbook.Extracting
import SceneBook.Proofs.Workbook.Numbering

/-!
# Which scenes are dispatched

A dispatch table has an entry for each index below a count that is taken from the number of scenes
and from the scene items. So the scenes of a numbered workbook all have their entries. A scene with
an index of its own has one exactly if the index is below the number of scenes, or if a scene item
reaches it.
-/

namespace SceneBook

/-- An index is that of an entry in the dispatch table. -/
def Workbook.Covers (w : Workbook) (e : Extraction) (index : Int) : Prop :=
  0 ≤ index ∧ index < w.coverage e

instance (w : Workbook) (e : Extraction) (index : Int) : Decidable (w.Covers e index) :=
  inferInstanceAs (Decidable (0 ≤ index ∧ index < w.coverage e))

/-- An index is below the number of scenes, or no higher than that of a scene item. -/
def Workbook.Reaches (w : Workbook) (e : Extraction) (index : Int) : Prop :=
  index < w.sceneCount ∨ ∃ x ∈ e.scenes, index ≤ x.sceneIndex

namespace Workbook

variable {w : Workbook} {e : Extraction} {index : Int}

private theorem covers_iff (h : 0 ≤ index) : w.Covers e index ↔ w.Reaches e index := by
  obtain ⟨i, rfl⟩ := Int.eq_ofNat_of_zero_le h
  have hspan := Item.lt_span_iff i e.scenes
  rw [Covers, Reaches, ← hspan, ← Scripting.span_eq_coverage, span]
  omega

/-- The scenes of a numbered workbook have the indices below their number. -/
theorem IsNumbered.index_lt (hw : w.IsNumbered) {sc : Scene} (h : sc ∈ w.scenes) :
    0 ≤ sc.index ∧ sc.index < w.sceneCount := by
  obtain ⟨moduleName, imports, scenes, rfl⟩ := hw.eq_build
  rw [build, scenesFrom_eq_zipIdx] at h
  obtain ⟨p, hp, rfl⟩ := List.mem_map.mp h
  obtain ⟨-, hlt, -⟩ := List.mem_zipIdx hp
  have hcount : (build moduleName imports scenes).sceneCount = scenes.length := by
    simp [build, sceneCount, scenesFrom_eq_zipIdx]
  rw [hcount]
  constructor
  · exact Int.natCast_nonneg _
  · simpa using hlt

theorem exists_scene_of_mem_items {tag : Text} {x : Item} (h : x ∈ w.items tag) :
    ∃ sc ∈ w.scenes, sc.index = x.sceneIndex := by
  obtain ⟨sc, hsc, hx⟩ := List.mem_flatMap.mp h
  obtain ⟨f, -, rfl⟩ := List.mem_map.mp hx
  exact ⟨sc, hsc, rfl⟩

end Workbook

namespace Scripting

/-- The dispatcher of a module has an entry for the number of a scene. -/
def Dispatches (w : Workbook) (e : Extraction) (number : Int) : Prop :=
  (dispatched (entries e.scenes (w.coverage e)) (w.coverage e) number).isSome = true

instance (w : Workbook) (e : Extraction) (number : Int) : Decidable (Dispatches w e number) :=
  inferInstanceAs (Decidable (_ = true))

private theorem dispatches_iff (w : Workbook) (e : Extraction) (index : Int) :
    Dispatches w e (index + 1) ↔ w.Covers e index := by
  constructor
  · intro h
    by_contra hcovers
    have hbounds : index + 1 < 1 ∨ (w.coverage e : Int) < index + 1 := by
      unfold Workbook.Covers at hcovers
      omega
    rw [Dispatches, dispatched, if_pos hbounds] at h
    cases h
  · rintro ⟨hlo, hhi⟩
    obtain ⟨i, rfl⟩ := Int.eq_ofNat_of_zero_le hlo
    rw [Dispatches, dispatched_entries e.scenes _ i (by omega)]
    rfl

/-- A module has a table of as many entries as it says that there are scenes. The dispatcher accepts
the number of a scene, and of every artifact that is made of it, exactly if the index is below the
number of scenes or reached by a scene item. So it accepts all scenes of a numbered workbook. -/
theorem scene_dispatched_iff (w : Workbook) (e : Extraction) (s : Settings)
    (hindex : ∀ sc ∈ w.scenes, 0 ≤ sc.index) :
    (∀ text, assemble w e s = .ok text → ∃ head rootKey, text = moduleText head
      ((entries e.scenes (w.coverage e)).map Entry.text) rootKey (w.coverage e)) ∧
    (∀ sc ∈ w.scenes, w.Covers e sc.index ↔ w.Reaches e sc.index) ∧
    (∀ sc ∈ w.scenes, Dispatches w e sc.number ↔ w.Reaches e sc.index) ∧
    (∀ tag, ∀ x ∈ w.items tag, Dispatches w e x.sceneNumber ↔ w.Reaches e x.sceneIndex) ∧
    (w.IsNumbered → ∀ sc ∈ w.scenes, Dispatches w e sc.number) := by
  have hscene (sc : Scene) (hsc : sc ∈ w.scenes) :
      Dispatches w e sc.number ↔ w.Reaches e sc.index :=
    (dispatches_iff w e sc.index).trans (Workbook.covers_iff (hindex sc hsc))
  refine ⟨?_, ?_, hscene, ?_, ?_⟩
  · intro text htext
    obtain ⟨importLines, rootKey, -, -, heq⟩ := (assemble_eq_ok_iff w e s text).mp htext
    exact ⟨_, rootKey, heq⟩
  · intro sc hsc
    exact Workbook.covers_iff (hindex sc hsc)
  · intro tag x hx
    obtain ⟨sc, hsc, heq⟩ := Workbook.exists_scene_of_mem_items hx
    rw [Item.sceneNumber, ← heq]
    exact hscene sc hsc
  · intro hnumbered sc hsc
    exact (hscene sc hsc).mpr (.inl (hnumbered.index_lt hsc).2)

/-- A page in a scene whose index is not its position. -/
def strayScene : Workbook := ⟨"main", [⟨1, [⟨"html", "<p>", [], none⟩]⟩], []⟩

theorem stray_scene_dispatched :
    (∀ sc ∈ strayScene.scenes, 0 ≤ sc.index) ∧
      ∀ sc ∈ strayScene.scenes, Dispatches strayScene ⟨[⟨4, [], "a()", .eval⟩], []⟩ sc.number := by
  let e : Extraction := ⟨[⟨4, [], "a()", .eval⟩], []⟩
  have hindex : ∀ sc ∈ strayScene.scenes, 0 ≤ sc.index := by decide
  obtain ⟨-, -, hscene, -, -⟩ := scene_dispatched_iff strayScene e default hindex
  refine ⟨hindex, fun sc hsc => (hscene sc hsc).mpr (.inr ⟨⟨4, [], "a()", .eval⟩, by simp [e], ?_⟩)⟩
  obtain rfl : sc = ⟨1, [⟨"html", "<p>", [], none⟩]⟩ := List.mem_singleton.mp hsc
  decide

/-- The page is in a scene of the workbook, and the dispatcher refuses the number of the scene. -/
theorem stray_scene_refused :
    ∃ sc ∈ strayScene.scenes, 0 ≤ sc.index ∧
      ¬ strayScene.Covers (strayScene.extract "js") sc.index ∧
      (∃ x ∈ strayScene.items "html", x.sceneNumber = sc.number) ∧
      ¬ Dispatches strayScene (strayScene.extract "js") sc.number := by
  let page : Scene := ⟨1, [⟨"html", "<p>", [], none⟩]⟩
  exact ⟨page, List.mem_cons_self, by decide, by decide, ⟨_, List.mem_cons_self, rfl⟩, by decide⟩

end Scripting

end SceneBook
