import SceneBook.Proofs.Workbook.Documents
import SceneBook.Value.Equality
import SceneBook.Workbook.File

/-!
# Loading workbooks

What a file is loaded as is what the value of its document is read as, with one difference. A value
that is false and no mapping counts as no document at all: alone it is refused, but a file that
holds it is the empty workbook.
-/

namespace SceneBook

/-- Whether a value is taken for a document that is not there: null, but also no, zero, and what is
empty without being a mapping. -/
structure Value.CountsAsNone (v : Value) : Prop where
  falsy : v.isTruthy = false
  notMapping : v.map? = none

namespace Workbook

open Value

def blank : Workbook := build "main" [] []

variable {v : Value} {w : Workbook}

private theorem map?_of_falsy (h : v.isTruthy = false) : v.CountsAsNone ∨ v.map? = some [] := by
  cases hmap : v.map? with
  | none => exact .inl ⟨h, hmap⟩
  | some es =>
    have hempty : es = [] := by simpa [isTruthy_of_map? hmap] using h
    rw [hempty]
    exact .inr rfl

private theorem ofFileValue_of_countsAsNone (h : v.CountsAsNone) : ofFileValue v = .ok blank := by
  rw [ofFileValue, h.falsy]
  rfl

private theorem ofDocument_of_not_map (h : v.map? = none) : ofDocument v = .error .notMapping := by
  rw [ofDocument, h]

private theorem ofFileValue_of_not_countsAsNone (h : ¬ v.CountsAsNone) :
    ofFileValue v = ofDocument v := by
  cases htruthy : v.isTruthy with
  | true => exact if_pos htruthy
  | false =>
    have hmap := (map?_of_falsy htruthy).resolve_left h
    rw [ofFileValue, htruthy, ofDocument, hmap]
    rfl

private theorem ofFileValue_eq_ok_iff :
    ofFileValue v = .ok w ↔ Spells v w ∨ v.CountsAsNone ∧ w = blank := by
  by_cases h : v.CountsAsNone
  · have hspells : ¬ Spells v w := by
      rw [← ofDocument_eq_ok_iff, ofDocument_of_not_map h.notMapping]
      exact nofun
    rw [ofFileValue_of_countsAsNone h]
    simp [h, hspells, eq_comm]
  · rw [ofFileValue_of_not_countsAsNone h, ofDocument_eq_ok_iff]
    simp [h]

/-- A file is loaded as the value of its document is read, unless this value counts as none. Then it
is the empty workbook, though the value is refused. So a file that holds no mapping is refused
exactly if what it holds is true. -/
theorem load_follows_document {path : Text} {content : List Char} {v : Value}
    (hpath : .scalar '\x00' ∉ path) (hread : Yaml.read content = .ok v) :
    let loaded := load path (.file content)
    let documented := (ofDocument v).mapError fun f => Failure.report f.report
    (loaded = documented ↔ ¬ v.CountsAsNone) ∧
    (v.CountsAsNone → loaded = .ok blank ∧
      documented = .error (.report DocumentFault.notMapping.report)) ∧
    (∀ w, loaded = .ok w ↔ Spells v w ∨ v.CountsAsNone ∧ w = blank) ∧
    (v.map? = none → (loaded = .error (.report DocumentFault.notMapping.report) ↔
      v.isTruthy = true)) := by
  intro loaded documented
  have hloaded : loaded = (ofFileValue v).mapError fun f => Failure.report f.report := by
    simp only [loaded, load, ofFile, hread]
    rw [if_neg (by simpa using hpath)]
  rw [hloaded]
  refine ⟨?_, fun hnone => ⟨?_, ?_⟩, fun w => ?_, fun hmap => ?_⟩
  · constructor
    · intro hagree hnone
      simp only [documented, ofFileValue_of_countsAsNone hnone,
        ofDocument_of_not_map hnone.notMapping] at hagree
      cases hagree
    · intro hnone
      rw [ofFileValue_of_not_countsAsNone hnone]
  · rw [ofFileValue_of_countsAsNone hnone]
    rfl
  · simp only [documented, ofDocument_of_not_map hnone.notMapping]
    rfl
  · rw [mapError_eq_ok_iff, ofFileValue_eq_ok_iff]
  · cases htruthy : v.isTruthy with
    | true =>
      rw [ofFileValue, if_pos htruthy, ofDocument_of_not_map hmap]
      simp [Except.mapError]
    | false =>
      rw [ofFileValue_of_countsAsNone ⟨htruthy, hmap⟩]
      simp [Except.mapError]

/-- The answer no is no document either. -/
theorem load_follows_document_no :
    .scalar '\x00' ∉ ("book.yaml" : Text) ∧
    Yaml.read "no".toList = .ok (.bool false) ∧
    load "book.yaml" (.file "no".toList) = .ok blank := by
  have hpath : .scalar '\x00' ∉ ("book.yaml" : Text) := by decide
  have hread : Yaml.read "no".toList = .ok (.bool false) := by decide +kernel
  obtain ⟨-, hnone, -, -⟩ := load_follows_document hpath hread
  exact ⟨hpath, hread, (hnone ⟨rfl, rfl⟩).1⟩

/-- A file with an empty list in it is taken for an empty workbook, which the list alone is not. -/
theorem bareList_loaded :
    Yaml.read "[]".toList = .ok (.list []) ∧
    ofDocument (.list []) = .error .notMapping ∧
    load "book.yaml" (.file "[]".toList) = .ok blank := by
  have hread : Yaml.read "[]".toList = .ok (.list []) := by decide +kernel
  refine ⟨hread, rfl, ?_⟩
  simp only [load, ofFile, hread]
  rfl

end Workbook

end SceneBook
