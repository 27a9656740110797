import SceneBook.Proofs.Results
import SceneBook.Registry
import Mathlib.Data.List.Nodup

/-!
# Registries by tag

A registry holds at most one plugin under a tag. So what is found under a tag, whether a plugin can
be added and what a removal leaves are told by the tags alone, and what is collated is listed by
them in their order.
-/

namespace SceneBook

namespace Registry

variable {r : Registry} {tag : Text} {p : Plugin}

theorem mem_of_find? (h : r.find? tag = some p) : p ∈ r.plugins ∧ p.tag = tag :=
  ⟨List.mem_of_find?_eq_some h, by simpa using List.find?_some h⟩

theorem find?_eq_some_iff : r.find? tag = some p ↔ p ∈ r.plugins ∧ p.tag = tag := by
  constructor
  · exact mem_of_find?
  · rintro ⟨hp, rfl⟩
    cases hfound : r.find? p.tag with
    | none =>
      have hnone := List.find?_eq_none.mp hfound p hp
      simp at hnone
    | some q =>
      obtain ⟨hq, htag⟩ := mem_of_find? hfound
      rw [List.inj_on_of_nodup_map r.tags_nodup hq hp htag]

theorem find?_eq_none_iff : r.find? tag = none ↔ tag ∉ r.tags := by
  simp [find?, tags]

theorem mem_tags_of_find? (h : r.find? tag = some p) : tag ∈ r.tags :=
  List.mem_map.mpr ⟨p, mem_of_find? h⟩

theorem isSome_find? (r : Registry) (tag : Text) :
    (r.find? tag).isSome = decide (tag ∈ r.tags) := by
  cases hfind : r.find? tag with
  | none => simp [find?_eq_none_iff.mp hfind]
  | some p => simp [mem_tags_of_find? hfind]

theorem register_of_mem (h : p.tag ∈ r.tags) :
    r.register p = .error (.alreadyRegistered (.text p.tag)) := dif_pos h

theorem register_of_not_mem (h : p.tag ∉ r.tags) :
    r.register p = .ok ⟨r.plugins ++ [p], tags_nodup_concat h⟩ := dif_neg h

theorem provide_own [Limits] : r.provide (.text p.tag) p = (r.register p).mapError .report := by
  simp [provide, Value.text?]

theorem provide_other [Limits] {v : Value} (h : v ≠ .text p.tag) :
    r.provide v p = .error (.misuse (v.unshown?.getD (.otherTag p.tag v.plain))) := by
  have hother : v.text? ≠ some p.tag := by
    intro htext
    exact h (Value.text?_eq_some_iff.mp htext)
  rw [provide, if_pos hother]

theorem not_mem_tags_of_nodup {rest : List Plugin}
    (h : ((r.plugins ++ p :: rest).map Plugin.tag).Nodup) : p.tag ∉ r.tags := by
  intro hp
  rw [List.map_append, List.map_cons] at h
  exact (List.nodup_append.mp h).2.2 p.tag hp p.tag (by simp) rfl

theorem registerAll_of_nodup {ps : List Plugin} (h : ((r.plugins ++ ps).map Plugin.tag).Nodup) :
    ∃ joined, r.registerAll ps = (joined, .ok (ps.map Plugin.tag)) ∧
      joined.plugins = r.plugins ++ ps := by
  induction ps generalizing r with
  | nil => exact ⟨r, rfl, by simp⟩
  | cons p rest ih =>
    have hfree := not_mem_tags_of_nodup h
    obtain ⟨joined, hjoined, hplugins⟩ := @ih ⟨r.plugins ++ [p], tags_nodup_concat hfree⟩
      (by simpa using h)
    refine ⟨joined, ?_, by simpa using hplugins⟩
    simp only [registerAll, register_of_not_mem hfree, hjoined]
    rfl

theorem filter_plugins (r : Registry) (keep : Text → Bool) (h : ∀ tag ∈ r.tags, keep tag = true) :
    (r.plugins.filter fun p => keep p.tag) = r.plugins := by
  apply List.filter_eq_self.mpr
  intro p hp
  exact h p.tag (List.mem_map.mpr ⟨p, hp, rfl⟩)

theorem filter_ne (h : tag ∉ r.tags) : (r.plugins.filter fun p => p.tag ≠ tag) = r.plugins := by
  apply r.filter_plugins fun t => t ≠ tag
  intro t ht
  have hne : t ≠ tag := fun he => h (he ▸ ht)
  simpa using hne

theorem unregister_of_not_mem (h : tag ∉ r.tags) : r.unregister tag = r := by
  simp only [unregister, filter_ne h]

theorem unregisterValue_text (tag : Text) :
    r.unregisterValue (.text tag) = .ok (r.unregister tag, decide (tag ∈ r.tags)) := by
  by_cases hempty : r.plugins.isEmpty = true
  · have habsent : tag ∉ r.tags := by simp [tags, List.isEmpty_iff.mp hempty]
    simp [unregisterValue, hempty, habsent, unregister_of_not_mem]
  · rw [unregisterValue, if_neg hempty, ← isSome_find?]
    rfl

/-- What is no text is under no tag. It has to be a key, unless the registry is empty. -/
theorem unregisterValue_other {v : Value} (h : v.text? = none) :
    r.unregisterValue v =
      if r.plugins.isEmpty || v.isKey then .ok (r, false) else .error .notAKey := by
  rw [unregisterValue, h]
  cases r.plugins.isEmpty <;> rfl

/-- The registry after some tags have been unregistered one after the other. -/
def withoutTags (r : Registry) (removed : List Text) : Registry := removed.foldl unregister r

private theorem plugins_withoutTags (removed : List Text) :
    (r.withoutTags removed).plugins = r.plugins.filter fun p => p.tag ∉ removed := by
  induction removed generalizing r with
  | nil => simp [withoutTags]
  | cons tag rest ih =>
    change ((r.unregister tag).withoutTags rest).plugins = _
    rw [ih, unregister, List.filter_filter]
    apply List.filter_congr
    intro p _
    simp [Bool.and_comm]

theorem mem_withoutTags {removed : List Text} :
    p ∈ (r.withoutTags removed).plugins ↔ p ∈ r.plugins ∧ p.tag ∉ removed := by
  rw [plugins_withoutTags, List.mem_filter, decide_eq_true_iff]

section

variable (r : Registry)

theorem collateAll_eq_ok_iff (w : Workbook) (found : List (Text × List Artifact)) :
    r.collateAll w = .ok found ↔
      List.Forall₂ (fun p entry => entry.1 = p.tag ∧ p.collate w = .ok entry.2) r.plugins
        found := by
  rw [collateAll, mapM_eq_ok_iff]
  have hentry (p : Plugin) (entry : Text × List Artifact) :
      ((p.collate w).map fun as => (p.tag, as)) = .ok entry ↔
        entry.1 = p.tag ∧ p.collate w = .ok entry.2 := by
    rw [map_eq_ok_iff]
    constructor
    · rintro ⟨as, has, rfl⟩
      exact ⟨rfl, has⟩
    · rintro ⟨htag, has⟩
      exact ⟨entry.2, has, Prod.ext htag.symm rfl⟩
  simp only [hentry]

variable {r} in
theorem tags_of_collateAll {w : Workbook} {found : List (Text × List Artifact)}
    (h : r.collateAll w = .ok found) : found.map Prod.fst = r.tags := by
  have htags : List.Forall₂ (· = ·) (r.plugins.map Plugin.tag) (found.map Prod.fst) := by
    rw [List.forall₂_map_left_iff, List.forall₂_map_right_iff]
    apply ((r.collateAll_eq_ok_iff w found).mp h).imp
    intro p entry hentry
    exact hentry.1.symm
  rw [List.forall₂_eq_eq_eq] at htags
  exact htags.symm

/-- Only the imports and the root key can keep a plugin from collating. -/
theorem exists_collate {p : Plugin} {w : Workbook} {lines : List Text} {key : Text}
    (himports : Import.lines w.imports = .ok lines)
    (hkey : p.settings.storeRootKey.json? = some key) :
    ∃ as, p.collate w = .ok as := by
  unfold Plugin.collate Plugin.collateExtraction
  cases p.language.medium with
  | markup | styling | graphics => exact ⟨_, rfl⟩
  | scripting =>
    simp only [Medium.collate, Scripting.collate, Scripting.assemble, Scripting.parts, himports,
      hkey]
    exact ⟨_, rfl⟩

theorem exists_collateAll {w : Workbook} {lines : List Text}
    (himports : Import.lines w.imports = .ok lines)
    (hkeys : ∀ p ∈ r.plugins, ∃ key, p.settings.storeRootKey.json? = some key) :
    ∃ found, r.collateAll w = .ok found := by
  apply exists_mapM_eq_ok
  intro p hp
  obtain ⟨key, hkey⟩ := hkeys p hp
  obtain ⟨as, has⟩ := exists_collate himports hkey
  exact ⟨(p.tag, as), map_eq_ok_iff.mpr ⟨as, has, rfl⟩⟩

end

end Registry

end SceneBook
