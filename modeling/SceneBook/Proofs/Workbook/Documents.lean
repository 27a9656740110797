import SceneBook.Proofs.Results
import SceneBook.Proofs.Value.Collections
import SceneBook.Proofs.Workbook.Numbering

/-!
# Documents that spell workbooks

A value spells a workbook if it has the parts of one, each of its kind and in its place. Reading
gives the workbook that a value spells and refuses every other value. Where all but the scenes is
right, the report has the number of the first scene that spells none.
-/

namespace SceneBook

namespace Value

variable {α : Type}

/-- What stands under a key that may be left out: a collection, which has the parts that `parts?`
finds in it, or anything false in the place of an empty one. -/
inductive Gives (parts? : Value → Option (List α)) : Option Value → List α → Prop
  | absent : Gives parts? none []
  | falsy {v : Value} (h : v.isTruthy = false) : Gives parts? (some v) []
  | whole {v : Value} {parts : List α} (h : parts? v = some parts) : Gives parts? (some v) parts

section

variable {parts? : Value → Option (List α)} {v : Value} {parts : List α}

private theorem gives_none_iff : Gives parts? none parts ↔ some [] = some parts := by
  constructor
  · intro h
    cases h
    rfl
  · intro h
    cases h
    exact .absent

private theorem gives_some_iff
    (htruthy : ∀ found : List α, parts? v = some found → v.isTruthy = !found.isEmpty) :
    Gives parts? (some v) parts ↔ (if v.isTruthy then parts? v else some []) = some parts := by
  by_cases hv : v.isTruthy = true
  · rw [if_pos hv]
    constructor
    · intro h
      cases h with
      | falsy hfalsy =>
        rw [hfalsy] at hv
        cases hv
      | whole h => exact h
    · exact .whole
  · rw [if_neg hv]
    constructor
    · intro h
      cases h with
      | falsy => rfl
      | whole h =>
        have hempty : parts = [] := by simpa [htruthy parts h] using hv
        rw [hempty]
    · intro h
      cases h
      exact .falsy ((Bool.not_eq_true _).mp hv)

end

private theorem listOrEmpty?_eq_some_iff {v? : Option Value} {items : List Value} :
    listOrEmpty? v? = some items ↔ Gives list? v? items := by
  cases v? with
  | none => exact gives_none_iff.symm
  | some v => exact (gives_some_iff fun _ => isTruthy_of_list?).symm

private theorem mapOrEmpty?_eq_some_iff {v? : Option Value} {es : Entries Value} :
    mapOrEmpty? v? = some es ↔ Gives map? v? es := by
  cases v? with
  | none => exact gives_none_iff.symm
  | some v => exact (gives_some_iff fun _ => isTruthy_of_map?).symm

private theorem nonEmptyText?_eq_some_iff {v : Value} {t : Text} :
    v.nonEmptyText? = some t ↔ v = .text t ∧ t ≠ [] := by
  rw [nonEmptyText?, Option.filter_eq_some_iff, text?_eq_some_iff]
  simp

end Value

open Value

namespace Fragment

/-- The entries of a fragment: its language, its code unless there is none, and attributes unless
there are none. -/
structure SpelledBy (f : Fragment) (es : Entries Value) : Prop where
  language : es.field? "language" = some (.text f.language)
  named : f.language ≠ []
  code : (es.field? "code").getD (.text []) = .text f.code
  attrs : Gives map? (es.field? "attrs") f.attrs
  unclassified : f.classification = none

def Spells (v : Value) (f : Fragment) : Prop := ∃ es, v.map? = some es ∧ f.SpelledBy es

variable {f : Fragment} {es : Entries Value} {v : Value}

private theorem ofEntries_eq_ok_iff : ofEntries es = .ok f ↔ f.SpelledBy es := by
  have hlanguage (t : Text) : (es.field? "language").bind nonEmptyText? = some t ↔
      es.field? "language" = some (.text t) ∧ t ≠ [] := by
    simp [Option.bind_eq_some_iff, nonEmptyText?_eq_some_iff]
  constructor
  · intro h
    unfold ofEntries at h
    split at h
    · cases h
    · next language hfound =>
      obtain ⟨hlang, hnamed⟩ := (hlanguage language).mp hfound
      split at h
      · cases h
      · next code hcode =>
        split at h
        · cases h
        · next attrs hattrs =>
          cases h
          exact ⟨hlang, hnamed, text?_eq_some_iff.mp hcode, mapOrEmpty?_eq_some_iff.mp hattrs, rfl⟩
  · intro h
    obtain ⟨language, code, attrs, classification⟩ := f
    have hfound := (hlanguage language).mpr ⟨h.language, h.named⟩
    have hcode := text?_eq_some_iff.mpr h.code
    have hattrs := mapOrEmpty?_eq_some_iff.mpr h.attrs
    have hnone : classification = none := h.unclassified
    simp only [ofEntries, hfound, hcode, hattrs, hnone]

private theorem ofValue_eq_ok_iff : ofValue v = .ok f ↔ Spells v f := by
  unfold ofValue Spells
  cases v.map? with
  | none => simp
  | some es => simp [ofEntries_eq_ok_iff]

end Fragment

namespace Scene

/-- The items of a scene, which is a list of them or a mapping that gives the list. -/
inductive Lists (v : Value) (items : List Value) : Prop
  | bare (h : v.list? = some items)
  | mapping {es : Entries Value} (hmap : v.map? = some es)
    (h : Gives list? (es.field? "fragments") items)

def Spells (v : Value) (fs : List Fragment) : Prop :=
  ∃ items, Lists v items ∧ List.Forall₂ Fragment.Spells items fs

def IsSpelled (v : Value) : Prop := ∃ fs, Spells v fs

variable {v : Value} {items : List Value} {fs : List Fragment}

private theorem list?_eq_none_of_map? {es : Entries Value} (h : v.map? = some es) :
    v.list? = none := by
  unfold map? at h
  unfold list?
  split at h
  · next hopened => rw [hopened]
  · cases h

private theorem lists_of_map? {es : Entries Value} (hmap : v.map? = some es) :
    Lists v items ↔ Gives list? (es.field? "fragments") items := by
  constructor
  · intro h
    cases h with
    | bare h =>
      rw [list?_eq_none_of_map? hmap] at h
      cases h
    | mapping hfound h =>
      rw [hmap] at hfound
      cases hfound
      exact h
  · exact .mapping hmap

private theorem lists_of_not_map (hmap : v.map? = none) : Lists v items ↔ v.list? = some items := by
  constructor
  · intro h
    cases h with
    | bare h => exact h
    | mapping hfound h =>
      rw [hmap] at hfound
      cases hfound
  · exact .bare

private theorem fragmentsOfValue_eq_ok_iff : fragmentsOfValue v = .ok fs ↔ Spells v fs := by
  unfold fragmentsOfValue Spells
  cases hmap : v.map? with
  | some es =>
    simp only [lists_of_map? hmap, ← listOrEmpty?_eq_some_iff]
    cases listOrEmpty? (es.field? "fragments") with
    | none => simp
    | some items => simp [mapM_eq_ok_iff, Fragment.ofValue_eq_ok_iff]
  | none =>
    simp only [lists_of_not_map hmap]
    cases v.list? with
    | none => simp
    | some items => simp [mapM_eq_ok_iff, Fragment.ofValue_eq_ok_iff]

private theorem isSpelled_iff : IsSpelled v ↔ ∃ fs, fragmentsOfValue v = .ok fs := by
  simp only [IsSpelled, fragmentsOfValue_eq_ok_iff]

private theorem not_isSpelled_iff : ¬ IsSpelled v ↔ ∃ f, fragmentsOfValue v = .error f := by
  rw [isSpelled_iff]
  cases fragmentsOfValue v with
  | error f => simp
  | ok fs => simp

private theorem exists_forall₂_spells_iff {scenes : List Value} :
    (∃ fss, List.Forall₂ Spells scenes fss) ↔ ∀ s ∈ scenes, IsSpelled s := by
  induction scenes with
  | nil => exact ⟨fun _ => by simp, fun _ => ⟨[], .nil⟩⟩
  | cons v rest ih =>
    rw [List.forall_mem_cons, ← ih]
    simp only [List.forall₂_cons_left_iff]
    constructor
    · rintro ⟨_, fs, fss, hfs, hfss, rfl⟩
      exact ⟨⟨fs, hfs⟩, fss, hfss⟩
    · rintro ⟨⟨fs, hfs⟩, fss, hfss⟩
      exact ⟨fs :: fss, fs, fss, hfs, hfss, rfl⟩

end Scene

namespace Workbook

/-- What a document has outside of its scenes, and the scenes as they are given. -/
structure Outlined (es : Entries Value) (name : Text) (imports scenes : List Value) : Prop where
  found : ((es.field? "module").or (es.field? "module_name")).getD (.text "main") = .text name
  named : name ≠ []
  imports : Gives list? (es.field? "imports") imports
  scenes : Gives list? (es.field? "scenes") scenes

/-- A workbook with one scene for each scene of a document, in the same order and indexed by its
place, and in it one fragment for each item. -/
structure SpelledBy (w : Workbook) (es : Entries Value) (imports scenes : List Value) : Prop where
  outlined : Outlined es w.moduleName imports scenes
  imports : w.imports = imports.map .given
  indices : w.scenes.map Scene.index = (List.range scenes.length).map fun (i : Nat) => (i : Int)
  fragments : List.Forall₂ Scene.Spells scenes (w.scenes.map Scene.fragments)

def Spells (v : Value) (w : Workbook) : Prop :=
  ∃ es imports scenes, v.map? = some es ∧ w.SpelledBy es imports scenes

/-- Whether a value has the parts of a workbook. -/
def IsSpelled (v : Value) : Prop :=
  ∃ es name imports scenes,
    v.map? = some es ∧ Outlined es name imports scenes ∧ ∀ s ∈ scenes, Scene.IsSpelled s

/-- The number of the first scene that spells none, in a document that has all else. -/
def FirstFaulty (v : Value) (number : Nat) : Prop :=
  ∃ es name imports before scene after,
    v.map? = some es ∧ Outlined es name imports (before ++ scene :: after) ∧
      (∀ s ∈ before, Scene.IsSpelled s) ∧ ¬ Scene.IsSpelled scene ∧ number = before.length + 1

variable {v : Value} {w : Workbook} {es : Entries Value} {name : Text}
  {imports scenes : List Value} {fss : List (List Fragment)}

private theorem indices_scenesFrom (start : Nat) (fss : List (List Fragment)) :
    (scenesFrom start fss).map Scene.index =
      (List.range' start fss.length).map fun (i : Nat) => (i : Int) := by
  induction fss generalizing start with
  | nil => rfl
  | cons fs rest ih =>
    rw [scenesFrom, List.map_cons, ih, List.length_cons, List.range'_succ, List.map_cons]

private theorem scenes_ext {s t : List Scene} (hindices : s.map Scene.index = t.map Scene.index)
    (hfragments : s.map Scene.fragments = t.map Scene.fragments) : s = t := by
  induction s generalizing t with
  | nil => exact (List.map_eq_nil_iff.mp hindices.symm).symm
  | cons scene rest ih =>
    cases t with
    | nil => cases hindices
    | cons other later =>
      obtain ⟨hindex, hindices⟩ := List.cons.inj hindices
      obtain ⟨hfirst, hfragments⟩ := List.cons.inj hfragments
      rw [ih hindices hfragments]
      cases scene
      cases other
      cases hindex
      cases hfirst
      rfl

private theorem eq_build_iff {imports : List Import} : w = build name imports fss ↔
    w.moduleName = name ∧ w.imports = imports ∧
      w.scenes.map Scene.index = (List.range fss.length).map (fun (i : Nat) => (i : Int)) ∧
        w.scenes.map Scene.fragments = fss := by
  have hindices := indices_scenesFrom 0 fss
  rw [← List.range_eq_range'] at hindices
  constructor
  · rintro rfl
    exact ⟨rfl, rfl, hindices, build_fragments name imports fss⟩
  · rintro ⟨hname, himports, hplaces, hfragments⟩
    have hscenes : w.scenes = scenesFrom 0 fss :=
      scenes_ext (hplaces.trans hindices.symm)
        (hfragments.trans (build_fragments name imports fss).symm)
    obtain ⟨moduleName, scenes, kept⟩ := w
    cases hname
    cases himports
    cases hscenes
    rfl

private theorem nameOfEntries?_eq_some_iff : nameOfEntries? es = some name ↔
    ((es.field? "module").or (es.field? "module_name")).getD (.text "main") = .text name ∧
      name ≠ [] := by
  unfold nameOfEntries?
  cases es.field? "module" with
  | some v => exact nonEmptyText?_eq_some_iff
  | none =>
    cases es.field? "module_name" with
    | some v => exact nonEmptyText?_eq_some_iff
    | none =>
      constructor
      · intro h
        cases h
        exact ⟨rfl, by decide⟩
      · rintro ⟨h, -⟩
        cases h
        rfl

private theorem scenesOfValues_eq_ok_iff {number : Nat} :
    scenesOfValues number scenes = .ok fss ↔ List.Forall₂ Scene.Spells scenes fss := by
  induction scenes generalizing number fss with
  | nil => cases fss <;> simp [scenesOfValues]
  | cons v rest ih =>
    rw [scenesOfValues, bind_eq_ok_iff, List.forall₂_cons_left_iff]
    simp only [bind_eq_ok_iff, mapError_eq_ok_iff, Scene.fragmentsOfValue_eq_ok_iff, ih]
    constructor
    · rintro ⟨fs, hfs, later, hlater, heq⟩
      exact ⟨fs, later, hfs, hlater, (Except.ok.inj heq).symm⟩
    · rintro ⟨fs, later, hfs, hlater, rfl⟩
      exact ⟨fs, hfs, later, hlater, rfl⟩

/-- The scenes are read in order, and the first that fails is the one reported. -/
theorem scenesOfValues_eq_error_iff {number : Nat} {fault : DocumentFault} :
    scenesOfValues number scenes = .error fault ↔ ∃ before scene after f,
      scenes = before ++ scene :: after ∧ (∀ s ∈ before, Scene.IsSpelled s) ∧
        Scene.fragmentsOfValue scene = .error f ∧ fault = .scene (number + before.length) f := by
  induction scenes generalizing number with
  | nil => simp [scenesOfValues]
  | cons v rest ih =>
    rw [scenesOfValues, bind_eq_error_iff]
    simp only [bind_eq_error_iff, mapError_eq_error_iff, mapError_eq_ok_iff, ih]
    constructor
    -- The first scene is the faulty one, or it is read and the faulty one is further on.
    · rintro (⟨f, hf, rfl⟩ | ⟨fs, hfs, ⟨before, scene, after, f, rfl, hbefore, hf, rfl⟩ |
        ⟨_, _, hnever⟩⟩)
      · exact ⟨[], v, rest, f, rfl, by simp, hf, rfl⟩
      · refine ⟨v :: before, scene, after, f, rfl, ?_, hf, ?_⟩
        · exact List.forall_mem_cons.mpr ⟨Scene.isSpelled_iff.mpr ⟨fs, hfs⟩, hbefore⟩
        · rw [List.length_cons, Nat.add_assoc, Nat.add_comm 1]
      · cases hnever
    · rintro ⟨before, scene, after, f, hsplit, hbefore, hf, rfl⟩
      cases before with
      | nil =>
        obtain ⟨rfl, rfl⟩ := List.cons.inj hsplit
        exact .inl ⟨f, hf, rfl⟩
      | cons first before =>
        obtain ⟨rfl, rfl⟩ := List.cons.inj hsplit
        obtain ⟨hfirst, hbefore⟩ := List.forall_mem_cons.mp hbefore
        obtain ⟨fs, hfs⟩ := Scene.isSpelled_iff.mp hfirst
        refine .inr ⟨fs, hfs, .inl ⟨before, scene, after, f, rfl, hbefore, hf, ?_⟩⟩
        rw [List.length_cons, Nat.add_assoc, Nat.add_comm 1]

private theorem ofEntries_of_outlined (h : Outlined es name imports scenes) :
    ofEntries es = (scenesOfValues 1 scenes).map (build name (imports.map .given)) := by
  have hname := nameOfEntries?_eq_some_iff.mpr ⟨h.found, h.named⟩
  have himports := listOrEmpty?_eq_some_iff.mpr h.imports
  have hscenes := listOrEmpty?_eq_some_iff.mpr h.scenes
  simp only [ofEntries, hname, himports, hscenes]

/-- What lacks a part outside of the scenes is refused for that part, whatever its scenes are. -/
theorem ofEntries_of_not_outlined (h : ∀ name imports scenes, ¬ Outlined es name imports scenes) :
    ∃ fault, ofEntries es = .error fault ∧ fault.context = [] := by
  unfold ofEntries
  split
  · exact ⟨_, rfl, rfl⟩
  · next name hname =>
    split
    · exact ⟨_, rfl, rfl⟩
    · next imports himports =>
      split
      · exact ⟨_, rfl, rfl⟩
      · next scenes hscenes =>
        obtain ⟨hfound, hnamed⟩ := nameOfEntries?_eq_some_iff.mp hname
        exact absurd ⟨hfound, hnamed, listOrEmpty?_eq_some_iff.mp himports,
          listOrEmpty?_eq_some_iff.mp hscenes⟩ (h name imports scenes)

private theorem exists_outlined_of_ofEntries (h : ofEntries es = .ok w) :
    ∃ name imports scenes, Outlined es name imports scenes := by
  by_contra hnever
  obtain ⟨fault, hfault, -⟩ := ofEntries_of_not_outlined fun name imports scenes hout =>
    hnever ⟨name, imports, scenes, hout⟩
  rw [h] at hfault
  cases hfault

theorem spelledBy_iff :
    w.SpelledBy es imports scenes ↔ ∃ fss, Outlined es w.moduleName imports scenes ∧
      List.Forall₂ Scene.Spells scenes fss ∧ w = build w.moduleName (imports.map .given) fss := by
  constructor
  · rintro ⟨hout, himports, hindices, hfragments⟩
    refine ⟨_, hout, hfragments, eq_build_iff.mpr ⟨rfl, himports, ?_, rfl⟩⟩
    rw [hindices, hfragments.length_eq]
  · rintro ⟨fss, hout, hfragments, heq⟩
    obtain ⟨-, himports, hindices, rfl⟩ := eq_build_iff.mp heq
    refine ⟨hout, himports, ?_, hfragments⟩
    rw [hindices, hfragments.length_eq]

private theorem ofEntries_eq_ok_iff :
    ofEntries es = .ok w ↔ ∃ imports scenes, w.SpelledBy es imports scenes := by
  constructor
  · intro h
    obtain ⟨name, imports, scenes, hout⟩ := exists_outlined_of_ofEntries h
    rw [ofEntries_of_outlined hout, map_eq_ok_iff] at h
    obtain ⟨fss, hfss, rfl⟩ := h
    exact ⟨imports, scenes,
      spelledBy_iff.mpr ⟨fss, hout, scenesOfValues_eq_ok_iff.mp hfss, rfl⟩⟩
  · rintro ⟨imports, scenes, h⟩
    obtain ⟨fss, hout, hfss, heq⟩ := spelledBy_iff.mp h
    rw [ofEntries_of_outlined hout, scenesOfValues_eq_ok_iff.mpr hfss, heq]
    rfl

theorem ofDocument_eq_ok_iff : ofDocument v = .ok w ↔ Spells v w := by
  unfold ofDocument Spells
  cases v.map? with
  | none => simp
  | some es => simp [ofEntries_eq_ok_iff]

private theorem isSpelled_iff : IsSpelled v ↔ ∃ w, Spells v w := by
  constructor
  · rintro ⟨es, name, imports, scenes, hmap, hout, hscenes⟩
    obtain ⟨fss, hfss⟩ := Scene.exists_forall₂_spells_iff.mpr hscenes
    exact ⟨build name (imports.map .given) fss, es, imports, scenes, hmap,
      spelledBy_iff.mpr ⟨fss, hout, hfss, rfl⟩⟩
  · rintro ⟨w, es, imports, scenes, hmap, h⟩
    obtain ⟨fss, hout, hfss, -⟩ := spelledBy_iff.mp h
    exact ⟨es, w.moduleName, imports, scenes, hmap, hout,
      Scene.exists_forall₂_spells_iff.mp ⟨fss, hfss⟩⟩

private theorem field?_context {fault : DocumentFault} {number : Nat} :
    fault.context.field? "scene" = some (.int number) ↔ ∃ f, fault = .scene number f := by
  cases fault with
  | scene n f =>
    have hfield : (DocumentFault.scene n f).context.field? "scene" = some (.int n) := rfl
    rw [hfield]
    simp only [Option.some.injEq, Value.scalar.injEq, Scalar.int.injEq, Int.natCast_inj,
      DocumentFault.scene.injEq, exists_and_left, exists_eq', and_true]
  | _ => simp [DocumentFault.context, Entries.field?, Entries.find?]

private theorem firstFaulty_iff {number : Nat} :
    FirstFaulty v number ↔ ∃ f, ofDocument v = .error (.scene number f) := by
  constructor
  · rintro ⟨es, name, imports, before, scene, after, hmap, hout, hbefore, hscene, rfl⟩
    obtain ⟨f, hf⟩ := Scene.not_isSpelled_iff.mp hscene
    have hscenes : scenesOfValues 1 (before ++ scene :: after) =
        .error (.scene (1 + before.length) f) :=
      scenesOfValues_eq_error_iff.mpr ⟨before, scene, after, f, rfl, hbefore, hf, rfl⟩
    refine ⟨f, ?_⟩
    rw [ofDocument, hmap, Nat.add_comm before.length]
    exact (ofEntries_of_outlined hout).trans (map_eq_error_iff.mpr hscenes)
  · rintro ⟨f, h⟩
    unfold ofDocument at h
    cases hmap : v.map? with
    | none =>
      rw [hmap] at h
      cases h
    | some es =>
      rw [hmap] at h
      by_cases hout : ∃ name imports scenes, Outlined es name imports scenes
      · obtain ⟨name, imports, scenes, hout⟩ := hout
        have hscenes := map_eq_error_iff.mp ((ofEntries_of_outlined hout).symm.trans h)
        obtain ⟨before, scene, after, f', rfl, hbefore, hf, heq⟩ :=
          scenesOfValues_eq_error_iff.mp hscenes
        cases heq
        exact ⟨es, name, imports, before, scene, after, hmap, hout, hbefore,
          Scene.not_isSpelled_iff.mpr ⟨f, hf⟩, Nat.add_comm 1 _⟩
      · obtain ⟨fault, hfault, hcontext⟩ := ofEntries_of_not_outlined
          fun name imports scenes h => hout ⟨name, imports, scenes, h⟩
        cases hfault.symm.trans h
        cases hcontext

/-- A value is read if it has the parts of a workbook and refused otherwise. What is read is the
workbook that the value spells, and a report that names a scene names the first that spells none. -/
theorem ofDocument_decided (v : Value) :
    ((∃ w, ofDocument v = .ok w) ∨
      ∃ fault, ofDocument v = .error fault ∧ fault.report.kind = .workbook) ∧
    ((∃ w, ofDocument v = .ok w) ↔ IsSpelled v) ∧
    (∀ w, ofDocument v = .ok w ↔ Spells v w) ∧
    ∀ number : Nat, (∃ fault, ofDocument v = .error fault ∧
      fault.report.context.field? "scene" = some (.int number)) ↔ FirstFaulty v number := by
  refine ⟨?_, ?_, fun w => ofDocument_eq_ok_iff, fun number => ?_⟩
  · cases h : ofDocument v with
    | ok w => exact .inl ⟨w, rfl⟩
    | error fault => exact .inr ⟨fault, rfl, rfl⟩
  · rw [isSpelled_iff]
    simp only [ofDocument_eq_ok_iff]
  · rw [firstFaulty_iff]
    constructor
    · rintro ⟨fault, hfault, hscene⟩
      obtain ⟨f, rfl⟩ := field?_context.mp hscene
      exact ⟨f, hfault⟩
    · rintro ⟨f, hf⟩
      exact ⟨_, hf, field?_context.mpr ⟨f, rfl⟩⟩

/-- Of two faulty scenes after a bare one, the first is reported. -/
example :
    ofDocument (.map [(.text "scenes", .list [.list [], .int 1, .null])]) =
      .error (.scene 2 .fragmentsNotList) :=
  rfl

end Workbook

end SceneBook
