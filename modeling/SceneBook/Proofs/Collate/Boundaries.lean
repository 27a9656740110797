import SceneBook.Proofs.Collate.DispatchTable
import SceneBook.Proofs.Collate.Readings
import SceneBook.Proofs.Collate.Separation
import SceneBook.Proofs.Collate.SettingsScope
import SceneBook.Proofs.Text.Lines
import SceneBook.Proofs.Workbook.Partition

/-!
# Boundaries of fragments

Two fragments of one scene can be written as one, with their codes on lines of their own, if they
are of one language and mode and none of these comes between them. Where a medium writes nothing of
its own between such fragments, what is collated does not tell whether this has been done.
-/

namespace SceneBook

open Text (unlines)

namespace Item

/-- Of two neighbours from one scene, the second is put under the code of the first. -/
inductive Fuses : List Item → List Item → Prop
  | intro (above below : List Item) {x y z : Item} (hy : y.sceneIndex = x.sceneIndex)
      (hz : z.sceneIndex = x.sceneIndex) (hcode : z.code = x.code ++ "\n" ++ y.code) :
      Fuses (above ++ x :: y :: below) (above ++ z :: below)

variable {xs ys : List Item}

private theorem Fuses.within (h : Fuses xs ys) (above below : List Item) :
    Fuses (above ++ xs ++ below) (above ++ ys ++ below) := by
  cases h with
  | intro above' below' hy hz hcode =>
    simpa using Fuses.intro (above ++ above') (below' ++ below) hy hz hcode

private theorem Fuses.join_codes (h : Fuses xs ys) :
    Text.join "\n" (xs.map code) = Text.join "\n" (ys.map code) := by
  cases h with
  | intro above below hy hz hcode =>
    simp only [List.map_append, List.map_cons, hcode, Text.join_fused]

private theorem Fuses.codeAt (h : Fuses xs ys) (index : Int) :
    Item.codeAt "\n" index xs = Item.codeAt "\n" index ys := by
  cases h with
  | @intro above below x y z hy hz hcode =>
    unfold Item.codeAt
    by_cases hx : x.sceneIndex = index
    · simp only [List.filter_append, List.filter_cons, hy, hz, hx, decide_true, if_true]
      exact (Fuses.intro _ _ hy hz hcode).join_codes
    · simp only [List.filter_append, List.filter_cons, hy, hz, hx, decide_false,
        Bool.false_eq_true, if_false]

private theorem Fuses.groupByScene (h : Fuses xs ys) :
    Item.groupByScene "\n" xs = Item.groupByScene "\n" ys := by
  rw [groupByScene_eq_iff, indices_eq_iff]
  refine ⟨?_, h.codeAt⟩
  intro index
  cases h with
  | intro above below hy hz hcode => simp [or_and_right, exists_or, hy, hz]

end Item

namespace Medium

/-- A medium writes nothing but a line feed between neighbours of a mode that come from one
scene. -/
def JoinsPlainly (m : Medium) (mode : Mode) : Prop :=
  mode = .eval ∨ m = .markup ∨ m = .graphics

instance (m : Medium) (mode : Mode) : Decidable (m.JoinsPlainly mode) :=
  inferInstanceAs (Decidable (_ ∨ _ ∨ _))

variable {xs ys : List Item}

private theorem hoisted_fused {m : Medium} (hm : m = .markup ∨ m = .graphics)
    (h : Item.Fuses xs ys) :
    m.hoisted xs = m.hoisted ys := by
  have hne : xs ≠ [] ∧ ys ≠ [] := by
    cases h with
    | intro => simp
  have hcodes := h.join_codes
  rcases hm with rfl | rfl <;> simp [hoisted, hne, hcodes]

private theorem length_hoisted_fused {m : Medium} (hm : m = .styling ∨ m = .scripting)
    (h : Item.Fuses xs ys) :
    (unlines (m.hoisted ys)).length < (unlines (m.hoisted xs)).length := by
  have hfeed : ("\n" : Text).length = 1 := rfl
  cases h with
  | @intro above below x y z hy hz hcode =>
    rcases hm with rfl | rfl
    · simp only [hoisted, List.map_append, List.map_cons, Text.unlines_append, Text.unlines_cons,
        Styling.block, Item.sceneNumber, hy, hz, hcode, List.length_append, hfeed]
      omega
    · simp only [hoisted, Scripting.definitionLines, List.flatMap_append, List.flatMap_cons,
        Text.unlines_append, Text.unlines_cons, List.cons_append, List.nil_append,
        Item.sceneNumber, hy, hz, hcode, List.length_append, hfeed]
      omega

end Medium

/-- Two items of one of the two parts of an extraction are fused. -/
inductive Extraction.Fuses : Mode → Extraction → Extraction → Prop
  | eval {xs ys : List Item} (h : Item.Fuses xs ys) (definitions : List Item) :
      Fuses .eval ⟨xs, definitions⟩ ⟨ys, definitions⟩
  | define (scenes : List Item) {xs ys : List Item} (h : Item.Fuses xs ys) :
      Fuses .define ⟨scenes, xs⟩ ⟨scenes, ys⟩

namespace Scripting

private theorem headLines_eq (moduleName : Text) (s : Settings)
    (importLines definitions : List Text) :
    headLines moduleName s importLines definitions =
      headLines moduleName s importLines [] ++ definitions := by
  simp [headLines]

private theorem unlines_hoisted_of_collate {w : Workbook} {scenes xs ys : List Item} {s : Settings}
    {as : List Artifact} (hxs : collate w ⟨scenes, xs⟩ s = .ok as)
    (hys : collate w ⟨scenes, ys⟩ s = .ok as) :
    unlines (Medium.scripting.hoisted xs) = unlines (Medium.scripting.hoisted ys) := by
  obtain ⟨text, htext, rfl⟩ := map_eq_ok_iff.mp hxs
  obtain ⟨text', htext', hsame⟩ := map_eq_ok_iff.mp hys
  have hcode : text' = text := congrArg Artifact.code (List.cons.inj hsame).1
  obtain ⟨importLines, rootKey, himports, hkey, hx⟩ := (assemble_eq_ok_iff w _ s text).mp htext
  obtain ⟨_, _, himports', hkey', hy⟩ := (assemble_eq_ok_iff w _ s text').mp htext'
  obtain rfl := Except.ok.inj (himports.symm.trans himports')
  obtain rfl := Option.some.inj (hkey.symm.trans hkey')
  have hmodules := (hx.symm.trans hcode.symm).trans hy
  have hcoverage : w.coverage ⟨scenes, xs⟩ = w.coverage ⟨scenes, ys⟩ := rfl
  simp only [moduleText, hcoverage, List.append_cancel_right_eq] at hmodules
  have hlines := Text.unlines_eq_of_join_eq (by simp [headLines]) (by simp [headLines]) hmodules
  rw [headLines_eq, headLines_eq _ _ _ (ys.flatMap _), Text.unlines_append, Text.unlines_append]
    at hlines
  exact List.append_cancel_left hlines

end Scripting

private theorem Styling.unlines_hoisted_of_collate {scenes xs ys : List Item} (hxs : xs ≠ [])
    (hys : ys ≠ []) (h : collate ⟨scenes, xs⟩ = collate ⟨scenes, ys⟩) :
    unlines (Medium.styling.hoisted xs) = unlines (Medium.styling.hoisted ys) := by
  have hcode := congrArg Artifact.code (List.cons.inj h).1
  apply Text.unlines_eq_of_join_eq
  · simpa [Medium.hoisted] using hxs
  · simpa [Medium.hoisted] using hys
  · exact hcode

namespace Medium

variable {m : Medium} {mode : Mode} {w : Workbook} {e e' : Extraction} {s : Settings}

private theorem collate_fused (h : e.Fuses mode e') (hm : m.JoinsPlainly mode) :
    m.collate w e' s = m.collate w e s := by
  symm
  apply Extraction.Alike.collate_eq
  cases h with
  | eval h definitions => exact ⟨h.groupByScene, rfl⟩
  | define scenes h => exact ⟨rfl, hoisted_fused (hm.resolve_left nofun) h⟩

private theorem collate_fused_ne (h : e.Fuses mode e') (hm : ¬ m.JoinsPlainly mode)
    {as : List Artifact} (hok : m.collate w e s = .ok as) : m.collate w e' s ≠ .ok as := by
  intro hok'
  cases h with
  | eval => exact hm (.inl rfl)
  | @define scenes xs ys h =>
    have hm' : m = .styling ∨ m = .scripting := by
      cases m <;> simp_all [JoinsPlainly]
    have hshorter := length_hoisted_fused hm' h
    have hsame : unlines (m.hoisted xs) = unlines (m.hoisted ys) := by
      rcases hm' with rfl | rfl
      · apply Styling.unlines_hoisted_of_collate
        · cases h
          simp
        · cases h
          simp
        · exact Except.ok.inj (hok.trans hok'.symm)
      · exact Scripting.unlines_hoisted_of_collate hok hok'
    rw [hsame] at hshorter
    exact Nat.lt_irrefl _ hshorter

theorem collate_fails_alike (m : Medium) (w : Workbook) (e e' : Extraction) (s : Settings) :
    Agree (fun _ _ => True) (m.collate w e s) (m.collate w e' s) := by
  cases m with
  | markup | styling | graphics => exact .ok trivial
  | scripting =>
    simp only [Medium.collate, Scripting.collate, Scripting.assemble, Scripting.parts]
    cases Import.lines w.imports with
    | error f => exact .error f
    | ok importLines =>
      cases s.storeRootKey.json? with
      | none => exact .error _
      | some rootKey => exact .ok trivial

end Medium

def Fragment.IsOf (tag : Text) (mode : Mode) (f : Fragment) : Prop :=
  f.language = tag ∧ (f.IsHoisted ↔ mode = .define)

instance (tag : Text) (mode : Mode) (f : Fragment) : Decidable (f.IsOf tag mode) :=
  inferInstanceAs (Decidable (_ ∧ _))

private theorem Fragment.IsOf.unique {tag tag' : Text} {mode mode' : Mode} {f : Fragment}
    (h : f.IsOf tag mode) (h' : f.IsOf tag' mode') : tag' = tag ∧ mode' = mode := by
  refine ⟨h'.1.symm.trans h.1, ?_⟩
  have hmodes : mode = .define ↔ mode' = .define := h.2.symm.trans h'.2
  cases mode <;> cases mode' <;> simp_all

/-- In place of two fragments of a language and mode, between which there is no other, a scene has
one of these with both codes. -/
inductive Scene.Fuses (tag : Text) (mode : Mode) : Scene → Scene → Prop
  | intro (index : Int) (above between below : List Fragment) {f g h : Fragment}
      (hf : f.IsOf tag mode) (hg : g.IsOf tag mode) (hh : h.IsOf tag mode)
      (hbetween : ∀ k ∈ between, ¬ k.IsOf tag mode) (hcode : h.code = f.code ++ "\n" ++ g.code) :
      Fuses tag mode ⟨index, above ++ f :: between ++ g :: below⟩
        ⟨index, above ++ h :: between ++ below⟩

/-- In place of one of its scenes a workbook has one that is fused. -/
inductive Workbook.Fuses (tag : Text) (mode : Mode) : Workbook → Workbook → Prop
  | intro (moduleName : Text) (imports : List Import) (before after : List Scene) {sc sc' : Scene}
      (h : sc.Fuses tag mode sc') :
      Fuses tag mode ⟨moduleName, before ++ sc :: after, imports⟩
        ⟨moduleName, before ++ sc' :: after, imports⟩

def Scene.inMode (sc : Scene) (tag : Text) (mode : Mode) : List Item :=
  (sc.fragments.filter fun f => f.IsOf tag mode).map (Item.ofFragment sc.index)

variable {tag tag' : Text} {mode mode' : Mode}

namespace Scene.Fuses

variable {sc sc' : Scene}

private theorem inMode (h : sc.Fuses tag mode sc') :
    Item.Fuses (sc.inMode tag mode) (sc'.inMode tag mode) := by
  cases h with
  | intro index above between below hf hg hh hbetween hcode =>
    have hnone : (between.filter fun k => k.IsOf tag mode) = [] := by
      simpa [List.filter_eq_nil_iff] using hbetween
    simp only [Scene.inMode, List.filter_append, List.filter_cons, hf, hg, hh, hnone, decide_true,
      if_true, List.map_append, List.map_cons, List.append_assoc, List.cons_append,
      List.nil_append]
    exact .intro _ _ rfl rfl hcode

private theorem inMode_other (h : sc.Fuses tag mode sc') (hne : tag' ≠ tag ∨ mode' ≠ mode) :
    sc'.inMode tag' mode' = sc.inMode tag' mode' := by
  have hother (k : Fragment) (hk : k.IsOf tag mode) : ¬ k.IsOf tag' mode' := by
    intro hk'
    obtain ⟨htag, hmode⟩ := hk.unique hk'
    exact hne.elim (fun hne => hne htag) fun hne => hne hmode
  cases h with
  | intro index above between below hf hg hh hbetween hcode =>
    simp only [Scene.inMode, List.filter_append, List.filter_cons, hother _ hf, hother _ hg,
      hother _ hh, decide_false, Bool.false_eq_true, if_false]

end Scene.Fuses

namespace Workbook

private theorem extract_eq (w : Workbook) (tag : Text) :
    w.extract tag = ⟨w.scenes.flatMap fun sc => sc.inMode tag .eval,
      w.scenes.flatMap fun sc => sc.inMode tag .define⟩ := by
  have hscenes := w.scenes_eq tag
  have hdefinitions := w.definitions_eq tag
  simp only [placed, List.filter_flatMap, List.filter_map, List.map_flatMap, List.map_map,
    Function.comp_def] at hscenes hdefinitions
  have hextract : w.extract tag = ⟨(w.extract tag).scenes, (w.extract tag).definitions⟩ := rfl
  rw [hextract, hscenes, hdefinitions]
  simp only [Scene.inMode, Fragment.IsOf, iff_true, iff_false, reduceCtorEq]

variable {w w' : Workbook}

private theorem Fuses.sameFrame (h : w.Fuses tag mode w') : w'.SameFrame w := by
  cases h with
  | intro => exact ⟨rfl, rfl, by simp [sceneCount]⟩

private theorem Fuses.extract (h : w.Fuses tag mode w') :
    (w.extract tag).Fuses mode (w'.extract tag) := by
  cases h with
  | @intro moduleName imports before after sc sc' h =>
    have hself : Item.Fuses ((before ++ sc :: after).flatMap fun sc => sc.inMode tag mode)
        ((before ++ sc' :: after).flatMap fun sc => sc.inMode tag mode) := by
      simpa using h.inMode.within (before.flatMap fun sc => sc.inMode tag mode)
        (after.flatMap fun sc => sc.inMode tag mode)
    have hother (mode' : Mode) (hne : mode' ≠ mode) :
        ((before ++ sc' :: after).flatMap fun sc => sc.inMode tag mode') =
          (before ++ sc :: after).flatMap fun sc => sc.inMode tag mode' := by
      simp only [List.flatMap_append, List.flatMap_cons, h.inMode_other (.inr hne)]
    rw [extract_eq, extract_eq]
    cases mode with
    | eval =>
      rw [hother .define nofun]
      exact .eval hself _
    | define =>
      rw [hother .eval nofun]
      exact .define _ hself

private theorem Fuses.extract_other (h : w.Fuses tag mode w') (hne : tag' ≠ tag) :
    w'.extract tag' = w.extract tag' := by
  cases h with
  | intro moduleName imports before after h =>
    simp only [extract_eq, List.flatMap_append, List.flatMap_cons, h.inMode_other (.inl hne)]

end Workbook

namespace Plugin

variable {p : Plugin} {w w' : Workbook}

private theorem collate_eq_of_fuses (h : w.Fuses tag mode w') :
    p.collate w' = p.language.medium.collate w (w'.extract p.tag) p.settings :=
  Medium.collate_frame _ _ fun _ => h.sameFrame

private theorem collate_fused (h : w.Fuses tag mode w')
    (hp : p.tag = tag → p.language.medium.JoinsPlainly mode) : p.collate w' = p.collate w := by
  rw [collate_eq_of_fuses h]
  by_cases htag : p.tag = tag
  · subst htag
    exact Medium.collate_fused h.extract (hp rfl)
  · rw [h.extract_other htag]
    rfl

private theorem collate_fused_ne (h : w.Fuses p.tag mode w')
    (hp : ¬ p.language.medium.JoinsPlainly mode) {as : List Artifact} (hok : p.collate w = .ok as) :
    p.collate w' ≠ .ok as := by
  rw [collate_eq_of_fuses h]
  exact Medium.collate_fused_ne h.extract hp hok

private theorem collate_fails_alike (h : w.Fuses tag mode w') :
    Agree (fun _ _ => True) (p.collate w) (p.collate w') := by
  rw [collate_eq_of_fuses h]
  exact Medium.collate_fails_alike _ _ _ _ _

end Plugin

namespace Registry

variable {w w' : Workbook}

private theorem collateAll_fails_alike (r : Registry) (h : w.Fuses tag mode w') :
    Agree (List.Forall₂ fun _ _ => True) (r.collateAll w) (r.collateAll w') := by
  apply Agree.mapM
  intro p _
  exact (Plugin.collate_fails_alike h).map fun _ _ _ => trivial

private theorem collateAll_eq_iff (r : Registry) (h : w.Fuses tag mode w') :
    r.collateAll w' = r.collateAll w ↔ (∃ f, r.collateAll w = .error f) ∨
      ∀ p ∈ r.plugins, p.tag = tag → p.language.medium.JoinsPlainly mode := by
  constructor
  · intro hsame
    cases hall : r.collateAll w with
    | error f => exact .inl ⟨f, rfl⟩
    | ok found =>
      right
      intro p hp htag
      subst htag
      by_contra hjoins
      obtain ⟨b, hstep, hstep'⟩ := exists_ok_of_mapM_eq_ok hall (hsame.trans hall) p hp
      obtain ⟨as, hok, rfl⟩ := map_eq_ok_iff.mp hstep
      obtain ⟨as', hok', heq⟩ := map_eq_ok_iff.mp hstep'
      obtain rfl := (Prod.mk.inj heq).2
      exact Plugin.collate_fused_ne h hjoins hok hok'
  · rintro (⟨f, hfails⟩ | hjoins)
    · rw [hfails]
      exact (r.collateAll_fails_alike h).error_iff.mp hfails
    · apply mapM_congr
      intro p hp
      rw [Plugin.collate_fused h (hjoins p hp)]

/-- A registry collates a workbook as before, after two neighbours of a language and mode have
become one, exactly if that fails, or if the medium of each of its plugins for the language joins
the mode plainly. With the languages of the web these are all evaluations, and the definitions of
markup and drawings. -/
theorem collateAll_fused (h : w.Fuses tag mode w') :
    (∀ r : Registry, r.collateAll w' = r.collateAll w ↔ (∃ f, r.collateAll w = .error f) ∨
      ∀ p ∈ r.plugins, p.tag = tag → p.language.medium.JoinsPlainly mode) ∧
    ∀ s, mode = .eval ∨ tag = "html" ∨ tag = "svg" →
      (web s).collateAll w' = (web s).collateAll w := by
  constructor
  · intro r
    exact r.collateAll_eq_iff h
  · intro s hplain
    apply ((web s).collateAll_eq_iff h).mpr
    right
    intro p hp htag
    obtain ⟨l, hl, rfl⟩ := mem_web hp
    obtain ⟨hmarkup, -, hgraphics, -⟩ := Language.medium_of_tag l hl
    rcases hplain with hmode | hhtml | hsvg
    · exact .inl hmode
    · exact .inr (.inl (hmarkup (htag.trans hhtml)))
    · exact .inr (.inr (hgraphics (htag.trans hsvg)))

/-- A scene that defines something in a language, with a script in its midst. -/
def interrupted (tag : Text) (above below : List Text) : Workbook :=
  let definition (code : Text) : Fragment := ⟨tag, code, [], some ⟨.define, none, none⟩⟩
  ⟨"interrupted",
    [⟨0, above.map definition ++ ⟨"js", "run()", [], some .eval⟩ :: below.map definition⟩], []⟩

/-- A drawing with nothing above it is drawn as if it had begun with an empty line. A style sheet
says of both its parts where they come from. -/
theorem collateAll_fused_interrupted :
    (interrupted "svg" [""] ["<g>"]).Fuses "svg" .define (interrupted "svg" ["\n<g>"] []) ∧
    (∀ s, (web s).collateAll (interrupted "svg" ["\n<g>"] []) =
      (web s).collateAll (interrupted "svg" [""] ["<g>"])) ∧
    ((web default).collateAll (interrupted "css" ["\n<g>"] [])).toOption ≠
      ((web default).collateAll (interrupted "css" [""] ["<g>"])).toOption := by
  have hfuses : (interrupted "svg" [""] ["<g>"]).Fuses "svg" .define
      (interrupted "svg" ["\n<g>"] []) := by
    apply Workbook.Fuses.intro "interrupted" [] [] []
    apply Scene.Fuses.intro 0 [] [⟨"js", "run()", [], some .eval⟩] []
    · decide
    · decide
    · decide
    · decide
    · rfl
  refine ⟨hfuses, ?_, by decide⟩
  intro s
  exact (collateAll_fused hfuses).2 s (.inr (.inr rfl))

end Registry

end SceneBook
