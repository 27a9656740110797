import SceneBook.Proofs.Results
import SceneBook.Workbook.File
import Mathlib.Data.List.Basic

/-!
# Numbered workbooks

A workbook that is built from lists of fragments, read from a document or loaded from a file has its
scenes indexed by their positions.
-/

namespace SceneBook.Workbook

/-- Whether a workbook has come about by building it or by reading a document. -/
def IsNumbered (w : Workbook) : Prop :=
  (∃ moduleName imports scenes, w = build moduleName imports scenes) ∨ ∃ v, ofDocument v = .ok w

theorem scenesFrom_eq_zipIdx (start : Nat) (scenes : List (List Fragment)) :
    scenesFrom start scenes = (scenes.zipIdx start).map fun p => ⟨(p.2 : Int), p.1⟩ := by
  induction scenes generalizing start with
  | nil => rfl
  | cons fragments rest ih => simp only [scenesFrom, List.zipIdx_cons, List.map_cons, ih]

theorem build_fragments (moduleName : Text) (imports : List Import)
    (scenes : List (List Fragment)) :
    (build moduleName imports scenes).scenes.map Scene.fragments = scenes := by
  simp [build, scenesFrom_eq_zipIdx, List.map_map, Function.comp_def]

theorem eq_build_of_ofEntries {es : Entries Value} {w : Workbook} (h : ofEntries es = .ok w) :
    ∃ (moduleName : Text) (values : List Value) (scenes : List (List Fragment)),
      w = build moduleName (values.map .given) scenes := by
  unfold ofEntries at h
  split at h
  · cases h
  · next name _ =>
    split at h
    · cases h
    · next imports _ =>
      split at h
      · cases h
      · next raw _ =>
        cases hs : scenesOfValues 1 raw with
        | error f => simp [hs, Except.map] at h
        | ok scenes =>
          simp only [hs, Except.map, Except.ok.injEq] at h
          exact ⟨name, imports, scenes, h.symm⟩

theorem IsNumbered.eq_build {w : Workbook} (h : w.IsNumbered) :
    ∃ moduleName imports scenes, w = build moduleName imports scenes := by
  rcases h with h | ⟨v, hv⟩
  · exact h
  · unfold ofDocument at hv
    split at hv
    · cases hv
    · obtain ⟨moduleName, values, scenes, heq⟩ := eq_build_of_ofEntries hv
      exact ⟨moduleName, values.map .given, scenes, heq⟩

/-- A workbook that is loaded has its imports as they are given, and its scenes by position. -/
theorem eq_build_of_load {path : Text} {entry : Entry} {b : Workbook}
    (h : load path entry = .ok b) :
    ∃ (moduleName : Text) (values : List Value) (scenes : List (List Fragment)),
      b = build moduleName (values.map .given) scenes := by
  have hvalue {v : Value} (hv : ofFileValue v = .ok b) : ∃ es, ofEntries es = .ok b := by
    unfold ofFileValue ofDocument at hv
    split_ifs at hv
    · cases hmap : v.map? with
      | none => simp [hmap] at hv
      | some es => exact ⟨es, by simpa [hmap] using hv⟩
    · exact ⟨[], hv⟩
  unfold load at h
  split_ifs at h
  cases entry with
  | file content =>
    simp only [ofFile] at h
    cases hread : Yaml.read content with
    | error fault => simp [hread] at h
    | ok v =>
      rw [hread] at h
      obtain ⟨es, hes⟩ := hvalue (mapError_eq_ok_iff.mp h)
      exact eq_build_of_ofEntries hes
  | folder | missing | blocked | tooLong => cases h

end SceneBook.Workbook
