import SceneBook.Proofs.Collate.Names
import SceneBook.Proofs.Registry.History

/-!
# Languages that artifacts are marked with

An artifact is marked with a language. The mark is fixed by the medium that has made the artifact,
and is the tag of the web language of this medium. So a language with a tag of its own is not found
in its artifacts, unless its medium has nothing to make.
-/

namespace SceneBook

namespace Medium

/-- The language that all artifacts of a medium are marked with. -/
def mark : Medium → Text
  | .markup => Language.html.tag
  | .styling => Language.css.tag
  | .graphics => Language.svg.tag
  | .scripting => Language.js.tag

variable {m : Medium} {w : Workbook} {e : Extraction} {s : Settings} {as : List Artifact}

private theorem language_eq_mark (h : m.collate w e s = .ok as) {a : Artifact} (ha : a ∈ as) :
    a.language = m.mark := by
  cases m with
  | markup =>
    cases h
    exact (frame_markup e s ha).1
  | styling =>
    cases h
    rw [List.mem_singleton.mp ha]
    rfl
  | graphics =>
    cases h
    rcases List.mem_cons.mp ha with rfl | ha
    · rfl
    · obtain ⟨group, -, rfl⟩ := List.mem_map.mp ha
      rfl
  | scripting =>
    obtain ⟨code, -, rfl⟩ := eq_of_scripting h
    rw [List.mem_singleton.mp ha]
    rfl

private theorem eq_nil_iff (h : m.collate w e s = .ok as) :
    as = [] ↔ m = .markup ∧ e.definitions = [] ∧ e.scenes = [] := by
  cases m with
  | markup =>
    cases h
    simp [Markup.collate, Markup.templates, Markup.scenes]
  | styling =>
    cases h
    simp [Styling.collate]
  | graphics =>
    cases h
    simp [Graphics.collate]
  | scripting =>
    obtain ⟨code, -, rfl⟩ := eq_of_scripting h
    simp

end Medium

namespace Plugin

/-- A language of markup of which a workbook has nothing. -/
def IsSilent (p : Plugin) (w : Workbook) : Prop :=
  p.language.medium = .markup ∧ w.items p.tag = []

private theorem eq_nil_iff_isSilent {p : Plugin} {w : Workbook} {as : List Artifact}
    (h : p.collate w = .ok as) : as = [] ↔ p.IsSilent w := by
  have hitems : (w.extract p.tag).definitions = [] ∧ (w.extract p.tag).scenes = [] ↔
      w.items p.tag = [] := by
    simp only [Workbook.extract_eq_filter, List.filter_eq_nil_iff]
    constructor
    · rintro ⟨hdefinitions, hscenes⟩
      refine List.eq_nil_iff_forall_not_mem.mpr fun i hi => ?_
      exact hscenes i hi (by simpa using hdefinitions i hi)
    · intro hnone
      rw [hnone]
      exact ⟨List.forall_mem_nil _, List.forall_mem_nil _⟩
  rw [Medium.eq_nil_iff h, hitems, IsSilent]

/-- What a plugin makes of a workbook, listed under its tag: all of it has the mark of the medium,
and so it has the tag only if this is the mark, or if there is nothing. -/
structure Marks (p : Plugin) (w : Workbook) (entry : Text × List Artifact) : Prop where
  tag : entry.1 = p.tag
  made : p.collate w = .ok entry.2
  marked : ∀ a ∈ entry.2, a.language = p.language.medium.mark
  carries_iff : (∀ a ∈ entry.2, a.language = entry.1) ↔
    p.language.medium.mark = p.tag ∨ p.IsSilent w

private theorem marks_of_collate {p : Plugin} {w : Workbook} {as : List Artifact}
    (h : p.collate w = .ok as) : p.Marks w (p.tag, as) where
  tag := rfl
  made := h
  marked a ha := Medium.language_eq_mark h ha
  carries_iff := by
    constructor
    · intro hall
      cases as with
      | nil => exact .inr ((eq_nil_iff_isSilent h).mp rfl)
      | cons a rest =>
        left
        rw [← Medium.language_eq_mark h List.mem_cons_self]
        exact hall a List.mem_cons_self
    · rintro (hmark | hsilent) a ha
      · rw [Medium.language_eq_mark h ha, hmark]
      · rw [(eq_nil_iff_isSilent h).mpr hsilent] at ha
        cases ha

end Plugin

namespace Registry

private theorem marks_of_collateAll {r : Registry} {w : Workbook}
    {found : List (Text × List Artifact)} (h : r.collateAll w = .ok found) :
    List.Forall₂ (fun p entry => p.Marks w entry) r.plugins found := by
  refine ((r.collateAll_eq_ok_iff w found).mp h).imp fun p entry hentry => ?_
  obtain ⟨tag, as⟩ := entry
  obtain ⟨rfl, has⟩ := hentry
  exact Plugin.marks_of_collate has

private theorem marks_of_collateTags [Limits] {r : Registry} {w : Workbook} {tags : List Value}
    {found : List (Text × List Artifact)} (h : r.collateTags tags w = .ok found) :
    List.Forall₂ (fun t entry => ∃ p ∈ r.plugins, t = .text p.tag ∧ p.Marks w entry) tags
      found := by
  refine (mapM_eq_ok_iff.mp h).imp fun t entry hentry => ?_
  obtain ⟨p, hp, hentry⟩ := bind_eq_ok_iff.mp hentry
  obtain ⟨as, has, hentry⟩ := bind_eq_ok_iff.mp hentry
  cases hentry
  obtain ⟨hmem, rfl⟩ := (r.getValue_eq_ok_iff t p).mp hp
  exact ⟨p, hmem, rfl, Plugin.marks_of_collate has⟩

private theorem carry_iff_of_marks {held : List Plugin} {w : Workbook}
    {found : List (Text × List Artifact)}
    (h : List.Forall₂ (fun p entry => p.Marks w entry) held found) :
    (∀ entry ∈ found, ∀ a ∈ entry.2, a.language = entry.1) ↔
      ∀ p ∈ held, p.language.medium.mark = p.tag ∨ p.IsSilent w := by
  induction h with
  | nil => exact ⟨nofun, nofun⟩
  | cons hentry _ ih => rw [List.forall_mem_cons, List.forall_mem_cons, ih, hentry.carries_iff]

private theorem collateTags_single [Limits] {r : Registry} {p : Plugin} {w : Workbook}
    {as : List Artifact} (hp : p ∈ r.plugins) (has : p.collate w = .ok as) :
    r.collateTags [.text p.tag] w = .ok [(p.tag, as)] := by
  have hget : r.getValue (.text p.tag) = .ok p := (r.getValue_eq_ok_iff _ p).mpr ⟨hp, rfl⟩
  exact mapM_eq_ok_iff.mpr
    (.cons (bind_eq_ok_iff.mpr ⟨p, hget, bind_eq_ok_iff.mpr ⟨as, has, rfl⟩⟩) .nil)

/-- After any calls, whatever languages were registered: what is made of a workbook is marked by the
media of the plugins that stand, and not by the tags that it is listed under. Where the imports are
valid, and every root key has a text, there is a result, and all of it has the tags that it is
listed under exactly if each of the plugins has the tag that its medium marks with, or is silent. -/
theorem run_marked [Limits] (r : Registry) (calls : List Call) (w : Workbook) :
    let held := standing (r.history calls)
    (∀ found, (r.run calls).collateAll w = .ok found →
      List.Forall₂ (fun p entry => p.Marks w entry) held found) ∧
    (∀ tags found, (r.run calls).collateTags tags w = .ok found →
      List.Forall₂ (fun t entry => ∃ p ∈ held, t = .text p.tag ∧ p.Marks w entry) tags found) ∧
    ((∃ lines, Import.lines w.imports = .ok lines) →
      (∀ p ∈ held, ∃ key, p.settings.storeRootKey.json? = some key) →
      (∃ found, (r.run calls).collateAll w = .ok found ∧
        ((∀ entry ∈ found, ∀ a ∈ entry.2, a.language = entry.1) ↔
          ∀ p ∈ held, p.language.medium.mark = p.tag ∨ p.IsSilent w)) ∧
      ∀ p ∈ held, ∃ as, (r.run calls).collateTags [.text p.tag] w = .ok [(p.tag, as)] ∧
        ((∀ a ∈ as, a.language = p.tag) ↔ p.language.medium.mark = p.tag ∨ p.IsSilent w)) := by
  intro held
  have hheld : (r.run calls).plugins = held := plugins_run r calls
  rw [← hheld]
  refine ⟨fun found hfound => marks_of_collateAll hfound,
    fun tags found hfound => marks_of_collateTags hfound, ?_⟩
  rintro ⟨lines, himports⟩ hkeys
  constructor
  · obtain ⟨found, hfound⟩ := (r.run calls).exists_collateAll himports hkeys
    exact ⟨found, hfound, carry_iff_of_marks (marks_of_collateAll hfound)⟩
  · intro p hp
    obtain ⟨key, hkey⟩ := hkeys p hp
    obtain ⟨as, has⟩ := exists_collate himports hkey
    exact ⟨as, collateTags_single hp has, (Plugin.marks_of_collate has).carries_iff⟩

/-- The web languages have the tags that their media mark with. -/
theorem mark_of_mem_web : ∀ l ∈ Language.web, l.medium.mark = l.tag := by decide

/-- The language of markup under another tag. -/
def retagged : Plugin := ⟨{ Language.html with tag := "vue" }, default⟩

/-- It is listed under its tag, and marked with the tag of another language. -/
theorem retagged_mismarked :
    let r := empty.run [.register retagged]
    let w : Workbook := ⟨[], [⟨0, [⟨"vue", "<p>", [], none⟩]⟩], []⟩
    let a : Artifact :=
      ⟨"scenes.html", "html", .eval, "<kram-scene scene=\"1\"><p></kram-scene>", none, none⟩
    Import.lines w.imports = .ok [] ∧ r.collateAll w = .ok [("vue", [a])] ∧
      r.collateTags [.text "vue"] w = .ok [("vue", [a])] ∧ a.language ≠ "vue" :=
  ⟨rfl, rfl, rfl, by decide⟩

end Registry

end SceneBook
