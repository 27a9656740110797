import SceneBook.Proofs.Registry.Classification

/-!
# Passes over a workbook

A workbook may be classified more than once, by one registry or by several. Two passes come down to
one: a later pass asks about a fragment only if it overwrites or no earlier one has left a verdict.
-/

namespace SceneBook

namespace Registry

/-- What a pass leaves of a fragment. Only the verdict may be another, and only one that was asked
for; it is that of the plugin, which has to have one. -/
structure Leaves (r : Registry) (overwrite : Bool) (f f' : Fragment) : Prop where
  language : f'.language = f.language
  code : f'.code = f.code
  attrs : f'.attrs = f.attrs
  kept : f.language ∉ r.tags ∨ overwrite = false ∧ f.classification ≠ none →
    f'.classification = f.classification
  stored : ∀ p ∈ r.plugins, p.tag = f.language → overwrite = true ∨ f.classification = none →
    ∃ c, p.language.classifyValue (.text f.code) = .ok c ∧ f'.classification = some c

/-- What a pass leaves of a workbook. -/
structure LeavesAll (r : Registry) (overwrite : Bool) (w w' : Workbook) : Prop where
  moduleName : w'.moduleName = w.moduleName
  imports : w'.imports = w.imports
  scenes : List.Forall₂ (fun sc sc' => sc'.index = sc.index ∧
    List.Forall₂ (r.Leaves overwrite) sc.fragments sc'.fragments) w.scenes w'.scenes

section

variable {r : Registry} {overwrite : Bool} {f : Fragment}

@[simp] theorem classifyFragment_attrs : (r.classifyFragment overwrite f).attrs = f.attrs := by
  unfold classifyFragment
  split <;> rfl

private theorem leaves_classifyFragment (h : r.Decides overwrite f) :
    r.Leaves overwrite f (r.classifyFragment overwrite f) where
  language := by simp
  code := by simp
  attrs := by simp
  kept hkept := by
    by_cases hmem : f.language ∈ r.tags
    · obtain ⟨hoverwrite, hverdict⟩ := hkept.resolve_left (not_not_intro hmem)
      obtain ⟨p, hp⟩ := List.mem_map.mp hmem
      have hunasked : (overwrite || f.classification.isNone) = false := by
        simp [hoverwrite, Option.ne_none_iff_isSome.mp hverdict]
      rw [classifyFragment_classification r overwrite (find?_eq_some_iff.mpr hp), hunasked]
      rfl
    · rw [classifyFragment_of_not_mem r overwrite hmem]
  stored p hp htag hasked := by
    have hfind := find?_eq_some_iff.mpr ⟨hp, htag⟩
    have hverdict := (r.decides_iff overwrite f).mp h p
      ((r.mem_classifies_iff overwrite).mpr ⟨hfind, hasked⟩)
    have hpasses : (overwrite || f.classification.isNone) = true := by simpa using hasked
    refine ⟨p.classify f.code, Language.classify?_eq_ok_iff.mpr hverdict, ?_⟩
    rw [classifyFragment_classification r overwrite hfind, if_pos hpasses]

private theorem leavesAll_classifyWorkbook {w : Workbook} (h : r.DecidesAll overwrite w) :
    r.LeavesAll overwrite w (r.classifyWorkbook overwrite w) where
  moduleName := rfl
  imports := rfl
  scenes := by
    apply List.forall₂_map_right_iff.mpr
    apply List.forall₂_same.mpr
    intro sc hsc
    refine ⟨rfl, ?_⟩
    apply List.forall₂_map_right_iff.mpr
    apply List.forall₂_same.mpr
    intro f hf
    exact leaves_classifyFragment (h sc hsc f hf)

private theorem find?_of_classifies {p : Plugin} (h : r.classifies overwrite f = some p) :
    r.find? f.language = some p :=
  (Option.filter_eq_some_iff.mp h).1

private theorem classifyFragment_of_none (h : r.classifies overwrite f = none) :
    r.classifyFragment overwrite f = f := by
  rw [classifyFragment, h]

private theorem classifyFragment_of_some {p : Plugin} (h : r.classifies overwrite f = some p) :
    r.classifyFragment overwrite f =
      ⟨f.language, f.code, f.attrs, some (p.classify f.code)⟩ := by
  rw [classifyFragment, h]

private theorem isNone_classifyFragment : (r.classifyFragment overwrite f).classification.isNone =
    ((r.find? f.language).isNone && f.classification.isNone) := by
  cases hfind : r.find? f.language with
  | none => simp [classifyFragment, classifies, hfind]
  | some p =>
    rw [classifyFragment_classification r overwrite hfind]
    cases overwrite <;> cases hverdict : f.classification <;> simp

end

section

variable {r₁ r₂ joined : Registry} {a b c : Bool} {f : Fragment}

private theorem classifies_classifyFragment : r₂.classifies b (r₁.classifyFragment a f) =
    (r₂.find? f.language).filter fun _ =>
      b || ((r₁.find? f.language).isNone && f.classification.isNone) := by
  rw [classifies, classifyFragment_language, isNone_classifyFragment]

private theorem classifyFragment_pass
    (h : joined.classifies c f =
      (r₂.classifies b (r₁.classifyFragment a f)).or (r₁.classifies a f)) :
    r₂.classifyFragment b (r₁.classifyFragment a f) = joined.classifyFragment c f := by
  cases hsecond : r₂.classifies b (r₁.classifyFragment a f) with
  | none =>
    have hjoined : joined.classifies c f = r₁.classifies a f := by rw [h, hsecond, Option.none_or]
    rw [classifyFragment_of_none hsecond, classifyFragment, classifyFragment, hjoined]
  | some q =>
    have hjoined : joined.classifies c f = some q := by rw [h, hsecond, Option.some_or]
    rw [classifyFragment_of_some hsecond, classifyFragment_of_some hjoined]
    simp

private theorem decides_pass
    (h : joined.classifies c f =
      (r₂.classifies b (r₁.classifyFragment a f)).or (r₁.classifies a f))
    (hsame : ∀ p ∈ r₁.classifies a f, ∀ q ∈ r₂.classifies b (r₁.classifyFragment a f), q = p) :
    joined.Decides c f ↔ r₁.Decides a f ∧ r₂.Decides b (r₁.classifyFragment a f) := by
  rw [decides_iff, decides_iff, decides_iff, h, classifyFragment_code]
  cases hsecond : r₂.classifies b (r₁.classifyFragment a f) with
  | none => simp
  | some q =>
    cases hfirst : r₁.classifies a f with
    | none => simp
    | some p =>
      obtain rfl := hsame p hfirst q hsecond
      simp

/-- Two passes are one, if this asks for each fragment the plugin that the second pass asks, and
else the one that the first does, and no two plugins are asked about one fragment. -/
theorem classifyWorkbook?_pass
    (h : ∀ f, joined.classifies c f =
      (r₂.classifies b (r₁.classifyFragment a f)).or (r₁.classifies a f))
    (hsame : ∀ f, ∀ p ∈ r₁.classifies a f, ∀ q ∈ r₂.classifies b (r₁.classifyFragment a f), q = p)
    (w : Workbook) : (r₁.classifyWorkbook? a w >>= r₂.classifyWorkbook? b).toOption =
      (joined.classifyWorkbook? c w).toOption := by
  have hdecides : joined.DecidesAll c w ↔
      r₁.DecidesAll a w ∧ r₂.DecidesAll b (r₁.classifyWorkbook a w) := by
    simp only [DecidesAll, classifyWorkbook, classifyScene, List.forall_mem_map,
      decides_pass (h _) (hsame _), forall_and]
  have hresult : r₂.classifyWorkbook b (r₁.classifyWorkbook a w) = joined.classifyWorkbook c w := by
    have hscene (sc : Scene) : r₂.classifyScene b (r₁.classifyScene a sc) =
        joined.classifyScene c sc := by
      simp only [classifyScene, List.map_map, Function.comp_def, classifyFragment_pass (h _)]
    simp only [classifyWorkbook, List.map_map, Function.comp_def, hscene]
  apply Option.ext
  intro w'
  simp only [toOption_eq_some_iff, bind_eq_ok_iff, classifyWorkbook?_eq_ok_iff, hdecides,
    ← hresult]
  constructor
  · rintro ⟨_, ⟨hfirst, rfl⟩, hsecond, rfl⟩
    exact ⟨⟨hfirst, hsecond⟩, rfl⟩
  · rintro ⟨⟨hfirst, hsecond⟩, rfl⟩
    exact ⟨_, ⟨hfirst, rfl⟩, hsecond, rfl⟩

end

/-- Two passes of one registry are one, which overwrites if either of them does. If they fail then
so does this, and in the same way unless it asks for a verdict that the first of them does not. One
pass changes nothing but the verdicts that it is asked for, and done again it changes nothing
more. -/
theorem classify_twice (r : Registry) (w : Workbook) (a b : Bool) :
    (r.classifyWorkbook? a w >>= r.classifyWorkbook? b).toOption =
      (r.classifyWorkbook? (a || b) w).toOption ∧
    ((b = true → a = true) →
      (r.classifyWorkbook? a w >>= r.classifyWorkbook? b) = r.classifyWorkbook? (a || b) w) ∧
    (r.DecidesAll a w → ∃ w', r.classifyWorkbook? a w = .ok w') ∧
    ∀ w', r.classifyWorkbook? a w = .ok w' →
      r.LeavesAll a w w' ∧ r.classifyWorkbook? a w' = .ok w' := by
  have htwice (a b : Bool) : (r.classifyWorkbook? a w >>= r.classifyWorkbook? b).toOption =
      (r.classifyWorkbook? (a || b) w).toOption := by
    apply classifyWorkbook?_pass
    · intro f
      rw [classifies_classifyFragment]
      unfold classifies
      cases r.find? f.language <;> cases a <;> cases b <;> cases f.classification <;>
        simp [Option.filter]
    · intro f p hp q hq
      have hfirst := find?_of_classifies hp
      have hsecond := find?_of_classifies hq
      rw [classifyFragment_language, hfirst] at hsecond
      exact (Option.some.inj hsecond).symm
  -- A pass that asks for no more than the one before it finds all verdicts there.
  have hagain {b : Bool} (hb : b = true → a = true) {w' : Workbook}
      (hw' : r.classifyWorkbook? a w = .ok w') : r.classifyWorkbook? b w' = .ok w' := by
    have hboth : (a || b) = a := by
      cases a <;> cases b <;> simp_all
    have hpasses := htwice a b
    rw [hboth, hw', Except.toOption] at hpasses
    exact toOption_eq_some_iff.mp hpasses
  refine ⟨htwice a b, fun hb => ?_, fun h => ?_, fun w' hw' => ⟨?_, hagain id hw'⟩⟩
  · have hboth : (a || b) = a := by
      cases a <;> cases b <;> simp_all
    rw [hboth]
    cases hw : r.classifyWorkbook? a w with
    | error e => rfl
    | ok w' => exact hagain hb hw
  · exact ⟨_, (r.classifyWorkbook?_eq_ok_iff a).mpr ⟨h, rfl⟩⟩
  · obtain ⟨hall, rfl⟩ := (r.classifyWorkbook?_eq_ok_iff a).mp hw'
    exact leavesAll_classifyWorkbook hall

def unstyled : Registry := (web default).unregister "css"

/-- A script, a paragraph with a verdict that its text does not get, a style and a note. -/
def draft : Workbook :=
  ⟨"draft", [⟨0, [⟨"js", "let a", [], none⟩, ⟨"html", "<p>", [], some ⟨.define, none, none⟩⟩]⟩,
    ⟨2, [⟨"css", "a{}", [], none⟩, ⟨"md", "a", [], none⟩]⟩], []⟩

theorem classify_twice_draft :
    unstyled.DecidesAll false draft ∧
    ∃ w', unstyled.classifyWorkbook? false draft = .ok w' ∧
      w'.verdicts = [[some ⟨.define, some "variable", some "a"⟩, some ⟨.define, none, none⟩],
        [none, none]] ∧
      unstyled.LeavesAll false draft w' ∧
      unstyled.classifyWorkbook? false w' = .ok w' ∧
      (unstyled.classifyWorkbook? false draft >>= unstyled.classifyWorkbook? true).toOption =
        (unstyled.classifyWorkbook? true draft).toOption ∧
      (unstyled.classifyWorkbook? false draft >>= unstyled.classifyWorkbook? false) =
        unstyled.classifyWorkbook? false draft := by
  have hdecides : unstyled.DecidesAll false draft := by decide
  obtain ⟨hpasses, -, hreturns, hleaves⟩ := classify_twice unstyled draft false true
  obtain ⟨-, hsame, -⟩ := classify_twice unstyled draft false false
  obtain ⟨w', hw'⟩ := hreturns hdecides
  obtain ⟨hall, hagain⟩ := hleaves w' hw'
  refine ⟨hdecides, w', hw', ?_, hall, hagain, hpasses, hsame id⟩
  obtain ⟨_, rfl⟩ := (unstyled.classifyWorkbook?_eq_ok_iff false).mp hw'
  decide

/-- A registry holds the plugins of the first of two for its tags, and those of the second for the
remaining ones. -/
def Joins (joined r₁ r₂ : Registry) : Prop :=
  ∀ tag, joined.find? tag = (r₁.find? tag).or (r₂.find? tag)

private theorem joins_of_perm {joined r₁ r₂ : Registry}
    (h : joined.plugins.Perm (r₁.plugins ++ r₂.plugins.filter fun p => p.tag ∉ r₁.tags)) :
    joined.Joins r₁ r₂ := by
  intro tag
  apply Option.ext
  intro p
  rw [Option.or_eq_some_iff, find?_eq_some_iff, find?_eq_some_iff, find?_eq_some_iff,
    find?_eq_none_iff, h.mem_iff, List.mem_append, List.mem_filter]
  constructor
  · rintro ⟨hp | ⟨hp, hnew⟩, rfl⟩
    · exact Or.inl ⟨hp, rfl⟩
    · exact Or.inr ⟨by simpa using hnew, hp, rfl⟩
  · rintro (⟨hp, rfl⟩ | ⟨hnew, hp, rfl⟩)
    · exact ⟨Or.inl hp, rfl⟩
    · exact ⟨Or.inr ⟨hp, by simpa using hnew⟩, rfl⟩

theorem exists_joined {r₁ r₂ : Registry} {ps : List Plugin}
    (h : ps.Perm (r₁.plugins ++ r₂.plugins.filter fun p => p.tag ∉ r₁.tags)) :
    ∃ joined, registerAll empty ps = (joined, .ok (ps.map Plugin.tag)) ∧ joined.Joins r₁ r₂ := by
  have hnodup : (ps.map Plugin.tag).Nodup := by
    rw [(h.map Plugin.tag).nodup_iff, List.map_append, List.nodup_append]
    refine ⟨r₁.tags_nodup, r₂.tags_nodup_filter _, ?_⟩
    intro tag htag other hother heq
    obtain ⟨p, hp, rfl⟩ := List.mem_map.mp hother
    have hnew := (List.mem_filter.mp hp).2
    exact (by simpa using hnew : p.tag ∉ r₁.tags) (heq ▸ htag)
  obtain ⟨joined, hjoined, hplugins⟩ := registerAll_of_nodup (r := empty) hnodup
  refine ⟨joined, hjoined, joins_of_perm ?_⟩
  rw [hplugins]
  exact h

/-- Where no verdict is overwritten, or no tag is in both, two registries one after the other do
what one does that joins them. -/
theorem Joins.pass {joined r₁ r₂ : Registry} (h : joined.Joins r₁ r₂) {overwrite : Bool}
    (hapart : overwrite = false ∨ r₁.tags.Disjoint r₂.tags) (w : Workbook) :
    (r₁.classifyWorkbook? overwrite w >>= r₂.classifyWorkbook? overwrite).toOption =
      (joined.classifyWorkbook? overwrite w).toOption := by
  -- A fragment of a language of the first has a verdict by then, and the second leaves it alone.
  have hlater {f : Fragment} {p : Plugin} (hfind : r₁.find? f.language = some p) :
      r₂.classifies overwrite (r₁.classifyFragment overwrite f) = none := by
    rw [classifies_classifyFragment, hfind]
    rcases hapart with rfl | hapart
    · simp
    · have hnone : r₂.find? f.language = none := by
        apply find?_eq_none_iff.mpr
        intro h₂
        exact hapart (mem_tags_of_find? hfind) h₂
      simp [hnone]
  apply classifyWorkbook?_pass
  · intro f
    cases hfind : r₁.find? f.language with
    | none =>
      rw [classifies_classifyFragment]
      simp [classifies, h f.language, hfind]
    | some p =>
      rw [hlater hfind]
      simp [classifies, h f.language, hfind]
  · intro f p hp q hq
    rw [hlater (find?_of_classifies hp)] at hq
    cases hq

/-- The order of two registries that have no tag in common is of no account. -/
theorem Joins.comm {joined r₁ r₂ : Registry} (h : joined.Joins r₁ r₂)
    (hapart : r₁.tags.Disjoint r₂.tags) : joined.Joins r₂ r₁ := by
  intro tag
  rw [h tag]
  cases h₁ : r₁.find? tag with
  | none => simp
  | some p =>
    have hnone : r₂.find? tag = none := by
      apply find?_eq_none_iff.mpr
      intro h₂
      exact hapart (mem_tags_of_find? h₁) h₂
    simp [hnone]

/-- Registries without a common tag classify a workbook alike one after the other, in either order,
and as one registry of all their plugins, registered in any order. Where they do have tags in common
and no verdict is overwritten, this registry has the plugins of the first for them. If any of this
fails all of it does, but what fails first goes by the order. -/
theorem classify_joined (r₁ r₂ : Registry) :
    (r₁.tags.Disjoint r₂.tags → ∀ ps, ps.Perm (r₁.plugins ++ r₂.plugins) →
      ∃ joined, registerAll empty ps = (joined, .ok (ps.map Plugin.tag)) ∧ ∀ overwrite w,
        (r₁.classifyWorkbook? overwrite w >>= r₂.classifyWorkbook? overwrite).toOption =
          (joined.classifyWorkbook? overwrite w).toOption ∧
        (r₂.classifyWorkbook? overwrite w >>= r₁.classifyWorkbook? overwrite).toOption =
          (joined.classifyWorkbook? overwrite w).toOption) ∧
    ∀ ps, ps.Perm (r₁.plugins ++ r₂.plugins.filter fun p => p.tag ∉ r₁.tags) →
      ∃ joined, registerAll empty ps = (joined, .ok (ps.map Plugin.tag)) ∧ ∀ w,
        (r₁.classifyWorkbook? false w >>= r₂.classifyWorkbook? false).toOption =
          (joined.classifyWorkbook? false w).toOption := by
  constructor
  · intro hapart ps hps
    have hall : (r₂.plugins.filter fun p => p.tag ∉ r₁.tags) = r₂.plugins := by
      apply r₂.filter_plugins fun tag => tag ∉ r₁.tags
      intro tag h₂
      have hnew : tag ∉ r₁.tags := fun h₁ => hapart h₁ h₂
      simpa using hnew
    rw [← hall] at hps
    obtain ⟨joined, hjoined, hjoins⟩ := exists_joined hps
    refine ⟨joined, hjoined, ?_⟩
    intro overwrite w
    constructor
    · exact hjoins.pass (Or.inr hapart) w
    · exact (hjoins.comm hapart).pass (Or.inr fun _ h₂ h₁ => hapart h₁ h₂) w
  · intro ps hps
    obtain ⟨joined, hjoined, hjoins⟩ := exists_joined hps
    exact ⟨joined, hjoined, fun w => hjoins.pass (Or.inl rfl) w⟩

def templated : Registry :=
  ⟨[⟨Language.css, default⟩,
    ⟨{ Language.html with rows := [], defaultMode := .define }, default⟩], by decide⟩

/-- With styling alone, registered first, all that is not a note gets its verdict. Of the two
plugins for markup, the one that is asked first is that of the web registry. -/
theorem classify_joined_draft :
    let styles := templated.unregister "html"
    let w : Workbook := { draft with scenes := draft.scenes ++ [⟨3, [⟨"html", "<b>", [], none⟩]⟩] }
    unstyled.tags.Disjoint styles.tags ∧
    (styles.plugins ++ unstyled.plugins).Perm (unstyled.plugins ++ styles.plugins) ∧
    (unstyled.classifyWorkbook? true w >>= styles.classifyWorkbook? true).toOption =
      (styles.classifyWorkbook? true w >>= unstyled.classifyWorkbook? true).toOption ∧
    ¬ unstyled.tags.Disjoint templated.tags ∧
    ∃ joined, registerAll empty (unstyled.plugins ++
        templated.plugins.filter fun p => p.tag ∉ unstyled.tags) =
          (joined, .ok ["html", "svg", "js", "css"]) ∧
      (unstyled.classifyWorkbook? false w >>= templated.classifyWorkbook? false).toOption =
        (joined.classifyWorkbook? false w).toOption ∧
      (unstyled.classifyWorkbook? false w >>= templated.classifyWorkbook? false).map
        Workbook.verdicts = .ok
          [[some ⟨.define, some "variable", some "a"⟩, some ⟨.define, none, none⟩],
            [some ⟨.define, none, none⟩, none], [some ⟨.eval, none, none⟩]] := by
  intro styles w
  have hapart : unstyled.tags.Disjoint styles.tags := List.disjoint_left.mpr (by decide)
  have hperm : (styles.plugins ++ unstyled.plugins).Perm (unstyled.plugins ++ styles.plugins) :=
    List.perm_append_comm
  obtain ⟨_, _, hboth⟩ := (classify_joined unstyled styles).1 hapart _ hperm
  obtain ⟨joined, hjoined, hpass⟩ := (classify_joined unstyled templated).2 _ (List.Perm.refl _)
  refine ⟨hapart, hperm, (hboth true w).1.trans (hboth true w).2.symm, ?_, joined, hjoined, hpass w,
    ?_⟩
  · intro h
    exact h (show ("html" : Text) ∈ unstyled.tags by decide) (by decide)
  · rfl

end Registry

end SceneBook
