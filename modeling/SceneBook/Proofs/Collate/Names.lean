import SceneBook.Proofs.Collate.Refusals
import SceneBook.Proofs.Text.Decimal
import SceneBook.Proofs.Workbook.Grouping

/-!
# Names of artifacts

Each medium has names of its own for artifacts, and numbers what it makes of scenes. So all that a
registry of web languages makes of a workbook can stand in one folder, and a name tells which
language has made what stands under it.
-/

namespace SceneBook

namespace Medium

def fixedNames : Medium → List Text
  | .markup => [Artifact.templatesName, Artifact.scenesName]
  | .styling => [Artifact.stylesName]
  | .graphics => [Artifact.shapesName]
  | .scripting => [Artifact.moduleFileName]

/-- The names that a medium has for artifacts: the fixed ones, and one for each number of a scene if
it draws scenes apart. -/
def Names (m : Medium) (name : Text) : Prop :=
  name ∈ m.fixedNames ∨ m = .graphics ∧ ∃ number, name = Artifact.sceneName (Text.ofInt number)

end Medium

namespace Artifact

private theorem sceneName_injective :
    Function.Injective fun i : Int => sceneName (Text.ofInt i) := by
  intro i j h
  have hnumber : "scene-" ++ Text.ofInt i = ("scene-" ++ Text.ofInt j : Text) :=
    List.append_cancel_right h
  exact Text.ofInt_injective (List.append_cancel_left hnumber)

private theorem sceneName_ne_fixed {m : Medium} {name : Text} (h : name ∈ m.fixedNames)
    (number : Text) :
    name ≠ sceneName number := by
  have hfixed : ∀ name ∈ m.fixedNames, name.take 6 ≠ ("scene-" : Text) := by
    cases m <;> decide
  rintro rfl
  exact hfixed _ h rfl

end Artifact

namespace Medium

private theorem Names.unique {m m' : Medium} {name : Text} (h : m.Names name) (h' : m'.Names name) :
    m = m' := by
  have hfixed : ∀ name ∈ m.fixedNames, name ∈ m'.fixedNames → m = m' := by
    cases m <;> cases m' <;> decide
  rcases h with h | ⟨rfl, i, rfl⟩
  · rcases h' with h' | ⟨rfl, i, rfl⟩
    · exact hfixed name h h'
    · exact absurd rfl (Artifact.sceneName_ne_fixed h _)
  · rcases h' with h' | ⟨rfl, -⟩
    · exact absurd rfl (Artifact.sceneName_ne_fixed h' _)
    · rfl

section

variable (e : Extraction) (s : Settings)

private theorem names_markup :
    ((Markup.collate e s).map Artifact.name).Sublist markup.fixedNames := by
  have htemplates : ((Markup.templates e.definitions).map Artifact.name).Sublist
      [Artifact.templatesName] := by
    unfold Markup.templates
    split
    · exact List.nil_sublist _
    · exact List.Sublist.refl _
  have hscenes : ((Markup.scenes e.scenes s.sceneElement.plain).map Artifact.name).Sublist
      [Artifact.scenesName] := by
    unfold Markup.scenes
    split
    · exact List.nil_sublist _
    · exact List.Sublist.refl _
  rw [Markup.collate, List.map_append]
  exact htemplates.append hscenes

theorem frame_markup {a : Artifact} (ha : a ∈ Markup.collate e s) :
    a.language = Language.html.tag ∧ a.scene = none ∧ a.moduleName = none := by
  rcases List.mem_append.mp ha with ha | ha
  · unfold Markup.templates at ha
    split at ha
    · cases ha
    · rw [List.mem_singleton.mp ha]
      exact ⟨rfl, rfl, rfl⟩
  · unfold Markup.scenes at ha
    split at ha
    · cases ha
    · rw [List.mem_singleton.mp ha]
      exact ⟨rfl, rfl, rfl⟩

private theorem names_graphics : (Graphics.collate e s).map Artifact.name = Artifact.shapesName ::
    (Item.indices e.scenes).map fun i => Artifact.sceneName (Text.ofInt (i + 1)) := by
  simp [Graphics.collate, Graphics.shapes, Graphics.scene, Item.groupByScene_eq, Function.comp_def]

private theorem numbers_graphics : (Graphics.collate e s).filterMap Artifact.scene =
    (Item.indices e.scenes).map fun i => i + 1 := by
  simp [Graphics.collate, Graphics.shapes, Graphics.scene, Item.groupByScene_eq, Function.comp_def]

end

theorem eq_of_scripting {w : Workbook} {e : Extraction} {s : Settings} {as : List Artifact}
    (h : Scripting.collate w e s = .ok as) : ∃ code, Scripting.assemble w e s = .ok code ∧
      as = [⟨Artifact.moduleFileName, "js", .eval, code, none, some w.moduleName⟩] := by
  obtain ⟨code, hcode, rfl⟩ := map_eq_ok_iff.mp h
  exact ⟨code, hcode, rfl⟩

section

variable {m : Medium} {w : Workbook} {e : Extraction} {s : Settings} {as : List Artifact}

private theorem nodup_names (h : m.collate w e s = .ok as) : (as.map Artifact.name).Nodup := by
  cases m with
  | markup =>
    cases h
    exact (names_markup e s).nodup (by decide)
  | styling =>
    cases h
    exact List.nodup_singleton _
  | graphics =>
    cases h
    rw [names_graphics, List.nodup_cons]
    constructor
    · intro hmem
      obtain ⟨i, -, hname⟩ := List.mem_map.mp hmem
      have hfixed : Artifact.shapesName ∈ graphics.fixedNames := List.mem_singleton_self _
      exact Artifact.sceneName_ne_fixed hfixed _ hname.symm
    · have hindices : (Item.indices e.scenes).Nodup :=
        (Item.indices_pairwise e.scenes).imp fun hlt => Int.ne_of_lt hlt
      refine hindices.map fun i j hij => ?_
      have hnumber : i + 1 = j + 1 := Artifact.sceneName_injective hij
      omega
  | scripting =>
    obtain ⟨code, -, rfl⟩ := eq_of_scripting h
    exact List.nodup_singleton _

theorem names_collate (h : m.collate w e s = .ok as) {a : Artifact} (ha : a ∈ as) :
    m.Names a.name := by
  cases m with
  | markup =>
    cases h
    exact .inl ((names_markup e s).subset (List.mem_map_of_mem ha))
  | styling =>
    cases h
    rw [List.mem_singleton.mp ha]
    exact .inl (List.mem_singleton_self _)
  | graphics =>
    cases h
    have hname := List.mem_map_of_mem (f := Artifact.name) ha
    rw [names_graphics] at hname
    rcases List.mem_cons.mp hname with hname | hname
    · exact .inl (List.mem_singleton.mpr hname)
    · obtain ⟨i, -, hname⟩ := List.mem_map.mp hname
      exact .inr ⟨rfl, i + 1, hname.symm⟩
  | scripting =>
    obtain ⟨code, -, rfl⟩ := eq_of_scripting h
    rw [List.mem_singleton.mp ha]
    exact .inl (List.mem_singleton_self _)

private theorem name_of_scene (h : m.collate w e s = .ok as) {a : Artifact} (ha : a ∈ as) {n : Int}
    (hn : a.scene = some n) : m = .graphics ∧ a.name = Artifact.sceneName (Text.ofInt n) := by
  cases m with
  | markup =>
    cases h
    rw [(frame_markup e s ha).2.1] at hn
    cases hn
  | styling =>
    cases h
    rw [List.mem_singleton.mp ha] at hn
    cases hn
  | graphics =>
    cases h
    rcases List.mem_cons.mp ha with rfl | ha
    · cases hn
    · obtain ⟨group, -, rfl⟩ := List.mem_map.mp ha
      cases hn
      exact ⟨rfl, rfl⟩
  | scripting =>
    obtain ⟨code, -, rfl⟩ := eq_of_scripting h
    rw [List.mem_singleton.mp ha] at hn
    cases hn

end

end Medium

/-- What a web language makes of a workbook, listed under its tag. -/
def Language.Lists (s : Settings) (w : Workbook) (entry : Text × List Artifact) : Prop :=
  ∃ l ∈ Language.web, entry.1 = l.tag ∧ Plugin.collate ⟨l, s⟩ w = .ok entry.2

private theorem Language.eq_of_medium_eq : ∀ l ∈ Language.web, ∀ l' ∈ Language.web,
    l.medium = l'.medium → l = l' := by
  intro l hl l' hl' h
  have hmediums : (Language.web.map Language.medium).Nodup := by decide
  exact List.inj_on_of_nodup_map hmediums hl hl' h

namespace Language

variable {s : Settings} {w : Workbook} {x y : Text × List Artifact}

/-- A name stands for one artifact, however often its language is listed. -/
theorem Lists.eq_of_name_eq (hx : Lists s w x) (hy : Lists s w y) {a b : Artifact}
    (ha : a ∈ x.2) (hb : b ∈ y.2) (h : a.name = b.name) : x = y ∧ a = b := by
  obtain ⟨l, hl, hxtag, has⟩ := hx
  obtain ⟨l', hl', hytag, hbs⟩ := hy
  have hmedium : l.medium = l'.medium :=
    (Medium.names_collate has ha).unique (h ▸ Medium.names_collate hbs hb)
  obtain rfl := Language.eq_of_medium_eq l hl l' hl' hmedium
  have hentry : x = y := by
    apply Prod.ext
    · rw [hxtag, hytag]
    · rw [has] at hbs
      exact Except.ok.inj hbs
  subst y
  exact ⟨rfl, List.inj_on_of_nodup_map (Medium.nodup_names has) ha hb h⟩

private theorem nodup_names_of_lists {found : List (Text × List Artifact)}
    (hlists : ∀ entry ∈ found, Lists s w entry) (htags : (found.map Prod.fst).Nodup) :
    ((found.flatMap Prod.snd).map Artifact.name).Nodup := by
  rw [List.map_flatMap, List.nodup_flatMap]
  constructor
  · intro entry hentry
    obtain ⟨l, -, -, has⟩ := hlists entry hentry
    exact Medium.nodup_names has
  · apply (List.Nodup.of_map _ htags).imp_of_mem
    intro x y hx hy hne
    refine List.disjoint_left.mpr ?_
    intro name hnamex hnamey
    obtain ⟨a, ha, rfl⟩ := List.mem_map.mp hnamex
    obtain ⟨b, hb, hname⟩ := List.mem_map.mp hnamey
    exact hne ((hlists x hx).eq_of_name_eq (hlists y hy) ha hb hname.symm).1

theorem Lists.name_of_scene (hx : Lists s w x) {a : Artifact} (ha : a ∈ x.2) {n : Int}
    (hn : a.scene = some n) :
    x.1 = Language.svg.tag ∧ a.name = Artifact.sceneName (Text.ofInt n) := by
  obtain ⟨l, hl, htag, has⟩ := hx
  obtain ⟨hmedium, hname⟩ := Medium.name_of_scene has ha hn
  have hsvg : l = Language.svg := Language.eq_of_medium_eq l hl .svg svg_mem_web hmedium
  exact ⟨hsvg ▸ htag, hname⟩

theorem Lists.numbers (hx : Lists s w x) (htag : x.1 = Language.svg.tag) :
    x.2.filterMap Artifact.scene =
      (Item.indices (w.extract Language.svg.tag).scenes).map fun i => i + 1 := by
  obtain ⟨l, hl, htag', has⟩ := hx
  obtain rfl := Language.eq_of_tag_eq hl svg_mem_web (htag'.symm.trans htag)
  have hdrawn : Graphics.collate (w.extract Language.svg.tag) s = x.2 := Except.ok.inj has
  rw [← hdrawn, Medium.numbers_graphics]

end Language

namespace Registry

variable {s : Settings} {w : Workbook} {removed : List Text}

private theorem lists_of_collateAll {found : List (Text × List Artifact)}
    (h : ((web s).withoutTags removed).collateAll w = .ok found) :
    ∀ entry ∈ found, Language.Lists s w entry := by
  intro entry hentry
  obtain ⟨p, hp, hcollated⟩ := exists_of_mem_mapM h hentry
  obtain ⟨as, has, rfl⟩ := map_eq_ok_iff.mp hcollated
  obtain ⟨l, hl, rfl⟩ := mem_web_withoutTags hp
  exact ⟨l, hl, rfl, has⟩

/-- A registry of web languages collates a workbook with valid imports, if it can write the root key
where scripts are registered. All artifacts have names of their own, one that has the number of a
scene is named by it, and the drawn scenes are listed by increasing numbers, one for each that a
graphics item has. -/
theorem collateAll_names_apart (s : Settings) (removed : List Text) (w : Workbook) :
    let r := (web s).withoutTags removed
    (∀ importLines, Import.lines w.imports = .ok importLines → w.HasShortNumbers →
      (Language.js.tag ∈ r.tags → ∃ rootKey, s.storeRootKey.json? = some rootKey) →
      ∃ found, r.collateAll w = .ok found) ∧
    ∀ found, r.collateAll w = .ok found →
      let artifacts := found.flatMap Prod.snd
      (artifacts.map Artifact.name).Nodup ∧
      (∀ a ∈ artifacts, ∀ n, a.scene = some n → a.name = "scene-" ++ Text.ofInt n ++ ".svg") ∧
      (∀ entry ∈ found, entry.1 ≠ Language.svg.tag → ∀ a ∈ entry.2, a.scene = none) ∧
      ∀ drawings, (Language.svg.tag, drawings) ∈ found →
        let numbers := drawings.filterMap Artifact.scene
        numbers.Pairwise (· < ·) ∧
        ∀ n, n ∈ numbers ↔ ∃ x ∈ (w.extract Language.svg.tag).scenes, x.sceneNumber = n := by
  intro r
  constructor
  · intro importLines himports _ hkey
    cases hall : r.collateAll w with
    | ok found => exact ⟨found, rfl⟩
    | error f =>
      obtain ⟨hjs, hfails⟩ := collateAll_web_eq_error_iff.mp hall
      obtain ⟨rootKey, hrootKey⟩ := hkey hjs
      obtain ⟨as, has⟩ := exists_collate (p := ⟨Language.js, s⟩) himports hrootKey
      rw [has] at hfails
      cases hfails
  · intro found hfound artifacts
    have hlists := lists_of_collateAll hfound
    have htags : (found.map Prod.fst).Nodup := tags_of_collateAll hfound ▸ r.tags_nodup
    refine ⟨Language.nodup_names_of_lists hlists htags, ?_, ?_, ?_⟩
    · intro a ha n hn
      obtain ⟨entry, hentry, ha⟩ := List.mem_flatMap.mp ha
      exact ((hlists entry hentry).name_of_scene ha hn).2
    · intro entry hentry hne a ha
      cases hscene : a.scene with
      | none => rfl
      | some n => exact absurd ((hlists entry hentry).name_of_scene ha hscene).1 hne
    · intro drawings hdrawings numbers
      have hnumbers : numbers =
          (Item.indices (w.extract Language.svg.tag).scenes).map fun i => i + 1 :=
        (hlists _ hdrawings).numbers rfl
      rw [hnumbers]
      constructor
      · exact (Item.indices_pairwise _).map _ fun i j hlt => Int.add_lt_add_right hlt 1
      · intro n
        rw [List.mem_map]
        constructor
        · rintro ⟨i, hi, rfl⟩
          obtain ⟨x, hx, rfl⟩ := (Item.mem_indices i _).mp hi
          exact ⟨x, hx, rfl⟩
        · rintro ⟨x, hx, rfl⟩
          exact ⟨x.sceneIndex, (Item.mem_indices _ _).mpr ⟨x, hx, rfl⟩, rfl⟩

/-- Drawings in scenes that are out of order, before the first one and twice at the same place. -/
def scatteredDrawings : Workbook :=
  ⟨"scattered", [⟨5, [⟨"svg", "<a/>", [], none⟩]⟩, ⟨-3, [⟨"svg", "<b/>", [], none⟩]⟩,
    ⟨5, [⟨"svg", "<c/>", [], none⟩, ⟨"css", "p", [], none⟩]⟩, ⟨0, [⟨"svg", "<d/>", [], none⟩]⟩],
    [.given (.map [(.text "from", .text "a")])]⟩

theorem collateAll_names_apart_scattered :
    let r := (web default).withoutTags ["css"]
    Import.lines scatteredDrawings.imports = .ok ["import 'a'"] ∧
    scatteredDrawings.HasShortNumbers ∧
    ∃ found, r.collateAll scatteredDrawings = .ok found ∧
      (found.flatMap Prod.snd).map Artifact.name =
        ["defs.svg", "scene--2.svg", "scene-1.svg", "scene-6.svg", "module.js"] ∧
      ((found.flatMap Prod.snd).map Artifact.name).Nodup := by
  intro r
  have himports : Import.lines scatteredDrawings.imports = .ok ["import 'a'"] := rfl
  have hnumbers : scatteredDrawings.HasShortNumbers := by decide +kernel
  obtain ⟨hexists, hapart⟩ := collateAll_names_apart default ["css"] scatteredDrawings
  obtain ⟨found, hfound⟩ := hexists _ himports hnumbers fun _ => ⟨_, rfl⟩
  refine ⟨himports, hnumbers, found, hfound, ?_, (hapart found hfound).1⟩
  cases hfound
  decide +kernel

end Registry

end SceneBook
