import SceneBook.Proofs.Collate.Manifests
import SceneBook.Proofs.Registry.History

/-!
# Requested collations

What a registry makes of a workbook when some tags are asked for, in the order of the tags and as
often as each is repeated.
-/

namespace SceneBook

namespace Registry

variable (r : Registry)

/-- The tags that are collated where some are asked for; all where none is. -/
def wanted (tags : List Value) : List Value := if tags.isEmpty then r.known else tags

/-- All that is made of a workbook under the wanted tags, once the workbook is classified. -/
def made [Limits] (tags : List Value) (b : Workbook) : Except Failure (List Artifact) :=
  (r.collateTags (r.wanted tags) (r.classifyWorkbook false b)).map fun found =>
    found.flatMap Prod.snd

theorem collateTags_cons [Limits] (t : Value) (rest : List Value) (b : Workbook) :
    r.collateTags (t :: rest) b = (do
      let p ← r.getValue t
      let as ← p.collate b
      let found ← r.collateTags rest b
      pure ((p.tag, as) :: found)) := by
  simp only [collateTags, collateWith, List.mapM_cons, bind_assoc, pure_bind]
  rfl

variable {r} {s : Settings} {tags : List Value} {b : Workbook} {as : List Artifact}

/-- What is made comes from a web language, which makes it of the classified workbook. -/
theorem exists_lists_of_made [Limits] (h : (web s).made tags b = .ok as) :
    ∀ a ∈ as, ∃ entry, Language.Lists s ((web s).classifyWorkbook false b) entry ∧
      a ∈ entry.2 := by
  obtain ⟨found, hfound, rfl⟩ := map_eq_ok_iff.mp h
  intro a ha
  obtain ⟨entry, hentry, ha⟩ := List.mem_flatMap.mp ha
  obtain ⟨t, -, hcollated⟩ := exists_of_mem_mapM hfound hentry
  obtain ⟨p, hp, hcollated⟩ := bind_eq_ok_iff.mp hcollated
  obtain ⟨as, has, hpure⟩ := bind_eq_ok_iff.mp hcollated
  obtain rfl := Except.ok.inj hpure
  obtain ⟨hmem, -⟩ := ((web s).getValue_eq_ok_iff t p).mp hp
  obtain ⟨l, hl, rfl⟩ := mem_web hmem
  exact ⟨(l.tag, as), ⟨l, hl, rfl, has⟩, ha⟩

/-- A name stands for one artifact, whatever the tags are and however often one is repeated. -/
theorem eq_of_name_eq_of_made [Limits] (h : (web s).made tags b = .ok as) :
    ∀ x ∈ as, ∀ y ∈ as, x.name = y.name → x = y := by
  intro x hx y hy hname
  obtain ⟨entry, hentry, hx⟩ := exists_lists_of_made h x hx
  obtain ⟨entry', hentry', hy⟩ := exists_lists_of_made h y hy
  exact (hentry.eq_of_name_eq hentry' hx hy hname).2

theorem isFileName_of_made [Limits] (h : (web s).made tags b = .ok as) :
    ∀ a ∈ as, Path.IsFileName a.name := by
  intro a ha
  obtain ⟨entry, hentry, ha⟩ := exists_lists_of_made h a ha
  obtain ⟨m, hname⟩ := hentry.names ha
  exact hname.isFileName

/-- What is made and can be stored has a manifest, unless the number of a scene is beyond JSON. -/
theorem isSome_manifest?_iff [Limits] (h : (web s).made tags b = .ok as)
    (hcodes : ∀ a ∈ as, a.code.isStorable = true) (layout : Artifact.Layout) (withCode : Bool) :
    (Artifact.manifest? layout withCode as).isSome = true ↔ ∀ a ∈ as, a.HasManifestScene :=
  Artifact.isSome_manifest?_iff (exists_lists_of_made h) hcodes layout withCode

theorem hasManifestScene_of_made [Limits] (hb : b.IsNumbered)
    (hcount : b.sceneCount < 0x10000000000000000)
    (h : (web s).made tags b = .ok as) : ∀ a ∈ as, a.HasManifestScene := by
  -- Classified scenes stay where they are.
  have hsame : ((web s).classifyWorkbook false b).sceneCount = b.sceneCount := by
    simp [classifyWorkbook, Workbook.sceneCount]
  intro a ha
  obtain ⟨entry, hentry, ha⟩ := exists_lists_of_made h a ha
  refine hentry.hasManifestScene ha ?_ (hsame ▸ hcount)
  intro sc hsc
  obtain ⟨sc', hsc', rfl⟩ := List.mem_map.mp hsc
  rw [hsame]
  have hindex : 0 ≤ sc'.index ∧ sc'.index < b.sceneCount := hb.index_lt hsc'
  exact hindex

/-- Only a tag that cannot be looked up or not be reported, or an import that cannot be reported,
breaks a collation off. -/
theorem made_misuse [Limits] (hs : s.fault? = none) {values : List Value}
    (hgiven : b.imports = values.map .given) {m : Misuse}
    (h : (web s).made tags b = .error (.misuse m)) :
    (∃ t ∈ tags, t.text? = none ∧ (t.isKey = false ∧ m = .notAKey ∨ t.isKey ∧
      (Report.unknownLanguage t (web s).known .null).obstacle? = some m)) ∨
      m = .tooLong ∧ ∃ v ∈ values, v.HasLongKey := by
  obtain ⟨before, t, after, hsplit, -, hfails⟩ := mapM_eq_error_iff.mp (map_eq_error_iff.mp h)
  rcases bind_eq_error_iff.mp hfails with htag | ⟨p, hp, hcollate⟩
  · have hunregistered := (web s).getValue_misuse htag
    refine .inl ⟨t, ?_, hunregistered⟩
    have hmem : t ∈ (web s).wanted tags := by simp [hsplit]
    rw [wanted] at hmem
    split_ifs at hmem with hall
    · obtain ⟨tag, -, rfl⟩ := List.mem_map.mp hmem
      cases hunregistered.1
    · exact hmem
  · obtain ⟨hmem, -⟩ := ((web s).getValue_eq_ok_iff t p).mp hp
    obtain ⟨l, hl, rfl⟩ := mem_web hmem
    have himports : ((web s).classifyWorkbook false b).imports = values.map .given := hgiven
    rcases bind_eq_error_iff.mp hcollate with hfails | ⟨as, -, hpure⟩
    · exact .inr (collate_misuse hs himports hl hfails)
    · cases hpure

end Registry

end SceneBook
