import SceneBook.Files.Path
import SceneBook.Proofs.Collate.Names
import SceneBook.Proofs.Collate.SceneCoverage
import SceneBook.Proofs.Text.Storable

/-!
# Manifests of collated artifacts

Artifacts of the web languages have names that files can have. They have a manifest as soon as their
codes can be stored, unless the number of a scene takes more than 64 bits.
-/

namespace SceneBook

/-- The name is that of a file right inside a folder. -/
def Path.IsFileName (name : Text) : Prop :=
  Path.slash ∉ name ∧ name ≠ [] ∧ name ≠ ("." : Text) ∧ name ≠ Path.parentName

instance (name : Text) : Decidable (Path.IsFileName name) :=
  inferInstanceAs (Decidable (_ ∧ _))

namespace Medium

theorem Names.isFileName {m : Medium} {name : Text} (h : m.Names name) : Path.IsFileName name := by
  rcases h with h | ⟨-, number, rfl⟩
  · have hfixed : ∀ name ∈ m.fixedNames, Path.IsFileName name := by
      cases m <;> decide
    exact hfixed name h
  · have hslash : Path.slash ∉ Text.ofInt number :=
      Text.not_mem_ofInt (by decide) (by decide) number
    have hbefore : Path.slash ∉ ("scene-" : Text) := by decide
    have hafter : Path.slash ∉ (".svg" : Text) := by decide
    have hhead : (Artifact.sceneName (Text.ofInt number)).head? = some (.scalar 's') := rfl
    have hne (name : Text) (h : name.head? ≠ some (.scalar 's')) :
        Artifact.sceneName (Text.ofInt number) ≠ name := by
      rintro rfl
      exact h hhead
    refine ⟨?_, hne _ (by decide), hne _ (by decide), hne _ (by decide)⟩
    simp [Artifact.sceneName, hslash, hbefore, hafter]

private theorem Names.isStorable {m : Medium} {name : Text} (h : m.Names name) :
    name.isStorable = true := by
  rcases h with h | ⟨-, number, rfl⟩
  · have hfixed : ∀ name ∈ m.fixedNames, Text.isStorable name = true := by
      cases m <;> decide
    exact hfixed name h
  · simp [Artifact.sceneName]

section

variable {m : Medium} {w : Workbook} {e : Extraction} {s : Settings} {as : List Artifact}

private theorem frame_collate (h : m.collate w e s = .ok as) {a : Artifact} (ha : a ∈ as) :
    a.language.isStorable = true ∧ (a.moduleName = none ∨
      Scripting.assemble w e s = .ok a.code ∧ a.moduleName = some w.moduleName) := by
  cases m with
  | markup =>
    cases h
    obtain ⟨hlanguage, -, hmodule⟩ := frame_markup e s ha
    rw [hlanguage]
    exact ⟨Text.isStorable_ofString _, .inl hmodule⟩
  | styling =>
    cases h
    rw [List.mem_singleton.mp ha]
    exact ⟨Text.isStorable_ofString _, .inl rfl⟩
  | graphics =>
    cases h
    rcases List.mem_cons.mp ha with rfl | ha
    · exact ⟨Text.isStorable_ofString _, .inl rfl⟩
    · obtain ⟨group, -, rfl⟩ := List.mem_map.mp ha
      exact ⟨Text.isStorable_ofString _, .inl rfl⟩
  | scripting =>
    obtain ⟨code, hcode, rfl⟩ := eq_of_scripting h
    rw [List.mem_singleton.mp ha]
    exact ⟨Text.isStorable_ofString _, .inr ⟨hcode, rfl⟩⟩

end

end Medium

private theorem Scripting.isStorable_moduleName {w : Workbook} {e : Extraction} {s : Settings}
    {code : Text} (h : assemble w e s = .ok code) (hcode : code.isStorable = true) :
    w.moduleName.isStorable = true := by
  obtain ⟨p, hp, rfl⟩ := map_eq_ok_iff.mp h
  have hname : p.moduleName = w.moduleName := by
    obtain ⟨importLines, -, hp⟩ := bind_eq_ok_iff.mp hp
    cases hkey : s.storeRootKey.json? with
    | none => simp [hkey] at hp
    | some rootKey =>
      simp only [hkey, Except.ok.injEq] at hp
      rw [← hp]
  have htitle : p.titleLine.isStorable = true := by
    rw [Parts.text, Text.isStorable_append, Bool.and_eq_true] at hcode
    exact Text.isStorable_of_join hcode.1 (by simp [Parts.lines])
  rw [Parts.titleLine, Text.isStorable_append, Text.isStorable_append] at htitle
  simp only [Bool.and_eq_true] at htitle
  rw [← hname]
  exact Text.isStorable_of_words htitle.1.2

namespace Artifact

/-- The number of the scene, where there is one, takes 64 bits at most. -/
def HasManifestScene (a : Artifact) : Prop := ∀ n ∈ a.scene, fitsManifest n = true

instance (a : Artifact) : Decidable a.HasManifestScene :=
  inferInstanceAs (Decidable (∀ n ∈ a.scene, fitsManifest n = true))

private theorem isSome_entryJson? (layout : Layout) (key : Text) (v : Value) :
    (entryJson? layout (.text key, v)).isSome = (key.isStorable && (partJson? v).isSome) := by
  rw [← Text.isSome_plainJson?]
  simp only [entryJson?]
  cases key.plainJson? with
  | none => rfl
  | some k => cases partJson? v <;> rfl

private theorem isSome_partJson?_text (t : Text) : (partJson? (.text t)).isSome = t.isStorable :=
  Text.isSome_plainJson? t

private theorem isSome_partJson?_int (i : Int) : (partJson? (.int i)).isSome = fitsManifest i := by
  simp only [partJson?]
  cases fitsManifest i <;> rfl

variable {a : Artifact}

private theorem isSome_json?_iff (layout : Layout) (withCode : Bool)
    (hcode : a.code.isStorable = true)
    (hname : a.name.isStorable = true) (hlanguage : a.language.isStorable = true)
    (hmodule : ∀ n ∈ a.moduleName, n.isStorable = true) :
    (a.json? layout withCode).isSome = true ↔ a.HasManifestScene := by
  have hmode : a.mode.word.isStorable = true := by
    cases a.mode <;> exact Text.isStorable_ofString _
  have hdigest : a.digest.isStorable = true := Text.isStorable_fingerprint
  have hmoduleName : (∀ n, a.moduleName = some n → n.isStorable = true) ↔ True :=
    iff_true_intro hmodule
  rw [json?, Option.isSome_map, isSome_mapM, toEntries]
  cases withCode <;>
    simp [HasManifestScene, isSome_entryJson?, isSome_partJson?_text, isSome_partJson?_int, hname,
      hlanguage, hmode, hdigest, hmoduleName, hcode]

end Artifact

namespace Language

variable {s : Settings} {w : Workbook} {x : Text × List Artifact} {a : Artifact}

theorem Lists.names (hx : Lists s w x) (ha : a ∈ x.2) : ∃ m : Medium, m.Names a.name := by
  obtain ⟨l, -, -, has⟩ := hx
  exact ⟨l.medium, Medium.names_collate has ha⟩

private theorem Lists.isSome_json?_iff (hx : Lists s w x) (ha : a ∈ x.2)
    (hcode : a.code.isStorable = true) (layout : Artifact.Layout) (withCode : Bool) :
    (a.json? layout withCode).isSome = true ↔ a.HasManifestScene := by
  obtain ⟨l, -, -, has⟩ := hx
  obtain ⟨hlanguage, hmodule⟩ := Medium.frame_collate has ha
  apply Artifact.isSome_json?_iff layout withCode hcode (Medium.names_collate has ha).isStorable
    hlanguage
  intro n hn
  rcases hmodule with hnone | ⟨hcodes, hsome⟩
  · rw [hnone] at hn
    cases hn
  · rw [hsome] at hn
    cases hn
    exact Scripting.isStorable_moduleName hcodes hcode

/-- The scenes of a workbook with indices from zero on up to their number have small numbers. -/
theorem Lists.hasManifestScene (hx : Lists s w x) (ha : a ∈ x.2)
    (hindex : ∀ sc ∈ w.scenes, 0 ≤ sc.index ∧ sc.index < w.sceneCount)
    (hcount : w.sceneCount < 0x10000000000000000) : a.HasManifestScene := by
  intro n hn
  obtain ⟨htag, -⟩ := hx.name_of_scene ha hn
  have hnumber : n ∈ x.2.filterMap Artifact.scene := List.mem_filterMap.mpr ⟨a, ha, hn⟩
  rw [hx.numbers htag] at hnumber
  obtain ⟨i, hi, rfl⟩ := List.mem_map.mp hnumber
  obtain ⟨item, hitem, rfl⟩ := (Item.mem_indices i _).mp hi
  rw [Workbook.scenes_extract] at hitem
  obtain ⟨sc, hsc, heq⟩ := Workbook.exists_scene_of_mem_items (List.mem_of_mem_filter hitem)
  obtain ⟨hlow, hhigh⟩ := hindex sc hsc
  rw [heq] at hlow hhigh
  simp only [Artifact.fitsManifest, Bool.and_eq_true, decide_eq_true_eq]
  omega

end Language

/-- Artifacts of web languages that can be stored have a manifest, unless the number of a scene is
beyond JSON. -/
theorem Artifact.isSome_manifest?_iff {s : Settings} {w : Workbook} {as : List Artifact}
    (hlists : ∀ a ∈ as, ∃ entry, Language.Lists s w entry ∧ a ∈ entry.2)
    (hcodes : ∀ a ∈ as, a.code.isStorable = true) (layout : Layout) (withCode : Bool) :
    (manifest? layout withCode as).isSome = true ↔ ∀ a ∈ as, a.HasManifestScene := by
  have hjson (a : Artifact) (ha : a ∈ as) :
      (a.json? layout withCode).isSome = true ↔ a.HasManifestScene := by
    obtain ⟨entry, hentry, hmem⟩ := hlists a ha
    exact hentry.isSome_json?_iff hmem (hcodes a ha) layout withCode
  have hall : (manifest? layout withCode as).isSome =
      as.all fun a => (a.json? layout withCode).isSome := by
    cases as with
    | nil => rfl
    | cons a rest =>
      rw [manifest?, Option.isSome_map, isSome_mapM]
      simp
  rw [hall, List.all_eq_true]
  exact forall₂_congr hjson

end SceneBook
