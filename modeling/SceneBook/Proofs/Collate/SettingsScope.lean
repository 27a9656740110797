import SceneBook.Proofs.Registry.Classification
import SceneBook.Proofs.Settings.Names

/-!
# The scope of settings

Settings shape the text of artifacts and nothing else. Under any two that are accepted a workbook is
collated into the same artifacts but for their text, and each medium writes its text from settings
of its own.
-/

namespace SceneBook

structure Artifact.SameFrame (a b : Artifact) : Prop where
  name : a.name = b.name
  language : a.language = b.language
  mode : a.mode = b.mode
  scene : a.scene = b.scene
  moduleName : a.moduleName = b.moduleName

/-- The settings that a medium writes into its text are the same. Of the announcement only the truth
value is looked at. -/
def Medium.ReadsAlike (s₁ s₂ : Settings) : Medium → Prop
  | .markup => s₁.sceneElement = s₂.sceneElement
  | .styling => True
  | .graphics => s₁.svgNamespace = s₂.svgNamespace
  | .scripting => s₁.storeRootKey = s₂.storeRootKey ∧
      s₁.announceLoad.isTruthy = s₂.announceLoad.isTruthy

/-- What a change of settings may do to the artifacts of a web language, listed under its tag. -/
structure Settings.Scoped (s₁ s₂ : Settings) (x y : Text × List Artifact) : Prop where
  tag : x.1 = y.1
  frames : List.Forall₂ Artifact.SameFrame x.2 y.2
  markup : x.1 = "html" → s₁.sceneElement = s₂.sceneElement → x.2 = y.2
  styling : x.1 = "css" → x.2 = y.2
  graphics : x.1 = "svg" → s₁.svgNamespace = s₂.svgNamespace → x.2 = y.2
  scripting : x.1 = "js" → s₁.storeRootKey = s₂.storeRootKey →
    s₁.announceLoad.isTruthy = s₂.announceLoad.isTruthy → x.2 = y.2

namespace Settings

variable {s : Settings}

theorem exists_json_rootKey (h : s.fault? = none) : ∃ key, s.storeRootKey.json? = some key := by
  obtain ⟨-, hkey, -⟩ := fault?_eq_none_iff.mp h
  obtain ⟨t, ht, -⟩ := okRootKey_iff.mp hkey
  rw [ht]
  exact ⟨t.asciiJson, rfl⟩

end Settings

section

variable {s₁ s₂ : Settings} (w : Workbook) (e : Extraction)

private theorem Artifact.sameFrames_self (as : List Artifact) : List.Forall₂ SameFrame as as := by
  apply List.forall₂_same.mpr
  intro a _
  exact ⟨rfl, rfl, rfl, rfl, rfl⟩

private theorem Markup.collate_sameFrames :
    List.Forall₂ Artifact.SameFrame (Markup.collate e s₁) (Markup.collate e s₂) := by
  apply List.rel_append (Artifact.sameFrames_self _)
  unfold Markup.scenes
  split
  · exact .nil
  · exact .cons ⟨rfl, rfl, rfl, rfl, rfl⟩ .nil

private theorem Graphics.collate_sameFrames :
    List.Forall₂ Artifact.SameFrame (Graphics.collate e s₁) (Graphics.collate e s₂) := by
  apply List.Forall₂.cons
  · exact ⟨rfl, rfl, rfl, rfl, rfl⟩
  · rw [List.forall₂_map_left_iff, List.forall₂_map_right_iff, List.forall₂_same]
    intro group _
    exact ⟨rfl, rfl, rfl, rfl, rfl⟩

private theorem Scripting.collate_sameFrames (h₁ : ∃ key, s₁.storeRootKey.json? = some key)
    (h₂ : ∃ key, s₂.storeRootKey.json? = some key) :
    Agree (List.Forall₂ Artifact.SameFrame) (Scripting.collate w e s₁)
      (Scripting.collate w e s₂) := by
  obtain ⟨key₁, hkey₁⟩ := h₁
  obtain ⟨key₂, hkey₂⟩ := h₂
  simp only [Scripting.collate, Scripting.assemble, Scripting.parts, hkey₁, hkey₂]
  cases Import.lines w.imports with
  | error f => exact .error f
  | ok lines => exact .ok (.cons ⟨rfl, rfl, rfl, rfl, rfl⟩ .nil)

private theorem Medium.collate_sameFrames (m : Medium)
    (h₁ : ∃ key, s₁.storeRootKey.json? = some key) (h₂ : ∃ key, s₂.storeRootKey.json? = some key) :
    Agree (List.Forall₂ Artifact.SameFrame) (m.collate w e s₁) (m.collate w e s₂) := by
  cases m with
  | markup => exact .ok (Markup.collate_sameFrames e)
  | styling => exact .ok (Artifact.sameFrames_self _)
  | graphics => exact .ok (Graphics.collate_sameFrames e)
  | scripting => exact Scripting.collate_sameFrames w e h₁ h₂

theorem Medium.ReadsAlike.collate_eq {m : Medium} (h : m.ReadsAlike s₁ s₂) :
    m.collate w e s₁ = m.collate w e s₂ := by
  cases m with
  | markup =>
    have helement : s₁.sceneElement = s₂.sceneElement := h
    simp only [Medium.collate, Markup.collate, helement]
  | styling => rfl
  | graphics =>
    have hnamespace : s₁.svgNamespace = s₂.svgNamespace := h
    simp only [Medium.collate, Graphics.collate, hnamespace]
  | scripting =>
    obtain ⟨hkey, hannounce⟩ := h
    simp only [Medium.collate, Scripting.collate, Scripting.assemble, Scripting.parts, hkey,
      hannounce]

private theorem Medium.collate_scoped (m : Medium) (h₁ : ∃ key, s₁.storeRootKey.json? = some key)
    (h₂ : ∃ key, s₂.storeRootKey.json? = some key) :
    Agree (fun as bs => List.Forall₂ Artifact.SameFrame as bs ∧ (m.ReadsAlike s₁ s₂ → as = bs))
      (m.collate w e s₁) (m.collate w e s₂) := by
  by_cases h : m.ReadsAlike s₁ s₂
  · rw [h.collate_eq w e]
    apply Agree.of_eq
    intro as
    exact ⟨Artifact.sameFrames_self as, fun _ => rfl⟩
  · apply (m.collate_sameFrames w e h₁ h₂).imp
    intro as bs hframes
    exact ⟨hframes, fun halike => absurd halike h⟩

end

theorem Language.medium_of_tag : ∀ l ∈ Language.web,
    (l.tag = "html" → l.medium = .markup) ∧ (l.tag = "css" → l.medium = .styling) ∧
      (l.tag = "svg" → l.medium = .graphics) ∧ (l.tag = "js" → l.medium = .scripting) := by
  decide

namespace Registry

private theorem collateAll_web (s : Settings) (w : Workbook) : (web s).collateAll w =
    Language.web.mapM fun l => (Plugin.collate ⟨l, s⟩ w).map fun as => (l.tag, as) := by
  rw [collateAll, web_plugins, Plugin.web, List.mapM_map]
  rfl

/-- Under two accepted settings a workbook fails alike to be collated, or it is collated into
artifacts that are the same but for their text. Styling is the same in any case, and the text of
each other language is if its own settings are. -/
theorem collateAll_scoped {s₁ s₂ : Settings} (h₁ : s₁.fault? = none) (h₂ : s₂.fault? = none)
    (w : Workbook) :
    Agree (fun found₁ found₂ => found₁.map Prod.fst = (["html", "css", "svg", "js"] : List Text) ∧
        List.Forall₂ (Settings.Scoped s₁ s₂) found₁ found₂)
      ((web s₁).collateAll w) ((web s₂).collateAll w) := by
  apply Agree.and_left
  · rw [collateAll_web, collateAll_web]
    apply Agree.mapM
    intro l hl
    obtain ⟨hmarkup, hstyling, hgraphics, hscripting⟩ := Language.medium_of_tag l hl
    apply (Medium.collate_scoped w (w.extract l.tag) l.medium (Settings.exists_json_rootKey h₁)
      (Settings.exists_json_rootKey h₂)).map
    rintro as bs ⟨hframes, halike⟩
    constructor
    · rfl
    · exact hframes
    · intro htag helement
      rw [hmarkup htag] at halike
      exact halike helement
    · intro htag
      rw [hstyling htag] at halike
      exact halike trivial
    · intro htag hnamespace
      rw [hgraphics htag] at halike
      exact halike hnamespace
    · intro htag hkey hannounce
      rw [hscripting htag] at halike
      exact halike ⟨hkey, hannounce⟩
  · intro found hfound
    exact tags_of_collateAll hfound

/-- A paragraph that is drawn, styled and scripted. -/
def illustrated : Workbook :=
  ⟨"illustrated", [⟨0, [⟨"html", "<p>", [], none⟩, ⟨"svg", "<g>", [], none⟩,
    ⟨"css", "p", [], some ⟨.define, none, none⟩⟩, ⟨"js", "run()", [], none⟩]⟩], []⟩

/-- Another element around scenes leaves all but the markup as it is, also where the announcement is
asked for in another way. -/
theorem collateAll_scoped_illustrated :
    let s : Settings :=
      { (default : Settings) with sceneElement := .text "a-b", announceLoad := .int 1 }
    let artifacts (s : Settings) (tag : Text) : Option (List Artifact) :=
      ((web s).collateAll illustrated).toOption.bind (List.lookup tag)
    (default : Settings).fault? = none ∧ s.fault? = none ∧
    (∃ found₁ found₂, (web default).collateAll illustrated = .ok found₁ ∧
      (web s).collateAll illustrated = .ok found₂ ∧
      List.Forall₂ (Settings.Scoped default s) found₁ found₂) ∧
    artifacts default "html" ≠ artifacts s "html" ∧ artifacts default "css" = artifacts s "css" ∧
    artifacts default "svg" = artifacts s "svg" ∧ artifacts default "js" = artifacts s "js" := by
  intro s artifacts
  have h₁ : (default : Settings).fault? = none := by decide
  have h₂ : s.fault? = none := by decide
  refine ⟨h₁, h₂, ?_, by decide, by rfl, by rfl, by rfl⟩
  have hscoped := collateAll_scoped h₁ h₂ illustrated
  obtain ⟨found₁, hfound₁⟩ : ∃ found, (web default).collateAll illustrated = .ok found :=
    ⟨_, by rfl⟩
  obtain ⟨found₂, hfound₂⟩ : ∃ found, (web s).collateAll illustrated = .ok found :=
    ⟨_, by rfl⟩
  rw [hfound₁, hfound₂] at hscoped
  cases hscoped with
  | ok h => exact ⟨found₁, found₂, hfound₁, hfound₂, h.2⟩

end Registry

end SceneBook
