import SceneBook.Proofs.Collate.Separation

/-!
# Histories of registries

A host registers and removes plugins in any order, and some of its calls fail. What a registry then
holds can be read off the changes that were made: the plugins whose registration is the last change
of their tag, in the order of registration. All that a registry can be asked agrees with this list.
-/

namespace SceneBook

namespace Registry

/-- What a host may do to a registry. -/
inductive Call
  | register (p : Plugin)
  /-- Registers a plugin that is offered under a tag. -/
  | provide (offered : Value) (p : Plugin)
  | unregister (tag : Value)

/-- What a call that succeeded has changed. -/
inductive Change
  | registered (p : Plugin)
  | removed (tag : Text)

def Change.tag : Change → Text
  | .registered p => p.tag
  | .removed tag => tag

/-- What a call leaves and what it answers, unless it fails. A registration has no answer, a removal
tells whether there was anything to remove. -/
def attempt [Limits] (r : Registry) : Call → Except Failure (Registry × Option Bool)
  | .register p => ((r.register p).mapError .report).map fun r' => (r', none)
  | .provide offered p => (r.provide offered p).map fun r' => (r', none)
  | .unregister tag =>
    ((r.unregisterValue tag).mapError .misuse).map fun (r', found) => (r', some found)

def answer [Limits] (r : Registry) (c : Call) :
    Except Failure (Option Bool) := (r.attempt c).map Prod.snd

def step [Limits] (r : Registry) (c : Call) : Registry :=
  match r.attempt c with
  | .ok (r', _) => r'
  | .error _ => r

def run [Limits] (r : Registry) (calls : List Call) : Registry := calls.foldl step r

def Call.change? : Call → Except Failure (Option Bool) → Option Change
  | .register p, .ok _ => some (.registered p)
  | .provide _ p, .ok _ => some (.registered p)
  | .unregister tag, .ok (some true) => tag.text?.map .removed
  | _, _ => none

def changes [Limits] (r : Registry) : List Call → List Change
  | [] => []
  | c :: rest => (c.change? (r.answer c)).toList ++ (r.step c).changes rest

/-- All changes up to the end of some calls. The plugins at the start count as registered one after
the other. -/
def history [Limits] (r : Registry) (calls : List Call) : List Change :=
  r.plugins.map .registered ++ r.changes calls

/-- The plugins whose registration is the last change of their tag, in the order of registration. -/
def standing : List Change → List Plugin
  | [] => []
  | .removed _ :: later => standing later
  | .registered p :: later =>
    if ∃ c ∈ later, c.tag = p.tag then standing later else p :: standing later

/-- A registry answers all that it can be asked as an ordered list of plugins does. -/
structure Shows [Limits] (r : Registry) (held : List Plugin) : Prop where
  tags : r.tags = held.map Plugin.tag
  nodup : (held.map Plugin.tag).Nodup
  size : r.size = held.length
  /-- What is stored under a tag has this tag. -/
  own : ∀ tag p, r.find? tag = some p → p.tag = tag
  contains : ∀ v, r.containsValue v =
    if v.isKey then .ok (v.text?.any fun tag => tag ∈ held.map Plugin.tag) else .error .notAKey
  get : ∀ v p, r.getValue v = .ok p ↔ p ∈ held ∧ v = .text p.tag
  register : ∀ p, (∃ e, r.answer (.register p) = .error e) ↔ p.tag ∈ held.map Plugin.tag
  provide : ∀ v p, (∃ e, r.answer (.provide v p) = .error e) ↔
    v ≠ .text p.tag ∨ p.tag ∈ held.map Plugin.tag
  /-- Where nothing is held, a tag that is to be removed is not looked at. -/
  unregister : ∀ v, r.answer (.unregister v) =
    if held.isEmpty then .ok (some false)
    else if v.isKey then .ok (some (v.text?.any fun tag => tag ∈ held.map Plugin.tag))
    else .error (.misuse .notAKey)
  unchanged : ∀ c e, r.answer c = .error e → r.step c = r
  /-- A workbook is collated by each of the plugins in their order. -/
  collated : ∀ w found, r.collateAll w = .ok found ↔
    List.Forall₂ (fun p entry => entry.1 = p.tag ∧ p.collate w = .ok entry.2) held found
  /-- Where the imports are valid, and every root key has a text, none of them fails. -/
  collates : ∀ w, (∃ lines, Import.lines w.imports = .ok lines) →
    (∀ p ∈ held, ∃ key, p.settings.storeRootKey.json? = some key) →
      ∃ found, r.collateAll w = .ok found ∧ found.map Prod.fst = held.map Plugin.tag
  /-- Only a fragment of one of their languages can keep a workbook from being classified. -/
  decides : ∀ overwrite w, (∃ w', r.classifyWorkbook? overwrite w = .ok w') ↔
    ∀ sc ∈ w.scenes, ∀ f ∈ sc.fragments, ∀ p ∈ held, p.tag = f.language →
      overwrite = true ∨ f.classification = none → p.language.isBrokenBy f.code = false
  /-- Their languages are those of which classifying changes anything in some workbook, but for one
  that has no verdict on any text. -/
  touches : ∀ tag, (∃ overwrite w w', r.classifyWorkbook? overwrite w = .ok w' ∧
    w'.projection tag ≠ w.projection tag) ↔
      ∃ p ∈ held, p.tag = tag ∧ ∃ code, p.language.isBrokenBy code = false
  /-- In a workbook that is classified, all their fragments have a verdict. -/
  classified : ∀ overwrite w w', r.classifyWorkbook? overwrite w = .ok w' →
    ∀ p ∈ held, w'.projection p.tag = (w.projection p.tag).map fun g =>
      (g.1, g.2.map fun c =>
        (c.1, if overwrite || c.2.isNone then some (p.classify c.1) else c.2))

private theorem change?_provide (v : Value) (p : Plugin) (a : Except Failure (Option Bool)) :
    (Call.provide v p).change? a = (Call.register p).change? a := by
  cases a <;> rfl

section

variable {r : Registry} {p : Plugin}

private theorem attempt_register_of_mem [Limits] (h : p.tag ∈ r.tags) :
    r.attempt (.register p) = .error (.report (.alreadyRegistered (.text p.tag))) := by
  rw [attempt, register_of_mem h]
  rfl

private theorem attempt_register_of_not_mem [Limits] (h : p.tag ∉ r.tags) :
    r.attempt (.register p) = .ok (⟨r.plugins ++ [p], tags_nodup_concat h⟩, none) := by
  rw [attempt, register_of_not_mem h]
  rfl

private theorem attempt_provide_own [Limits] :
    r.attempt (.provide (.text p.tag) p) = r.attempt (.register p) := by
  simp only [attempt, provide_own]

private theorem attempt_unregister_text [Limits] (tag : Text) :
    r.attempt (.unregister (.text tag)) =
    .ok (r.unregister tag, some (decide (tag ∈ r.tags))) := by
  rw [attempt, unregisterValue_text]
  rfl

end

private theorem step_register [Limits] (r : Registry) (p : Plugin) :
    ((Call.register p).change? (r.answer (.register p)) = none ∧ r.step (.register p) = r) ∨
    ((Call.register p).change? (r.answer (.register p)) = some (.registered p) ∧ p.tag ∉ r.tags ∧
      (r.step (.register p)).plugins = r.plugins ++ [p]) := by
  by_cases h : p.tag ∈ r.tags
  · left
    simp only [answer, step, attempt_register_of_mem h]
    exact ⟨rfl, trivial⟩
  · right
    simp only [answer, step, attempt_register_of_not_mem h]
    exact ⟨rfl, h, trivial⟩

/-- A call changes nothing, or it adds a plugin with a new tag at the end, or it takes the plugin of
a tag out. -/
theorem step_cases [Limits] (r : Registry) (c : Call) :
    (c.change? (r.answer c) = none ∧ r.step c = r) ∨
    (∃ p, c.change? (r.answer c) = some (.registered p) ∧ p.tag ∉ r.tags ∧
      (r.step c).plugins = r.plugins ++ [p]) ∨
    (∃ tag, c.change? (r.answer c) = some (.removed tag) ∧
      (r.step c).plugins = r.plugins.filter fun q => q.tag ≠ tag) := by
  cases c with
  | register p =>
    apply (step_register r p).imp_right
    intro hadds
    exact Or.inl ⟨p, hadds⟩
  | provide v p =>
    by_cases hown : v = .text p.tag
    · subst hown
      simp only [change?_provide, answer, step, attempt_provide_own]
      apply (step_register r p).imp_right
      intro hadds
      exact Or.inl ⟨p, hadds⟩
    · left
      simp only [answer, step, attempt, provide_other hown]
      exact ⟨rfl, rfl⟩
  | unregister v =>
    cases htext : v.text? with
    | some tag =>
      obtain rfl := Value.text?_eq_some_iff.mp htext
      simp only [answer, step, attempt_unregister_text]
      by_cases h : tag ∈ r.tags
      · right; right
        refine ⟨tag, ?_, rfl⟩
        rw [decide_eq_true h]
        rfl
      · left
        rw [decide_eq_false h, unregister_of_not_mem h]
        exact ⟨rfl, rfl⟩
    | none =>
      -- What is no text may keep the call from returning, but there is nothing for it to remove.
      left
      constructor
      · cases r.answer (.unregister v) with
        | error e => rfl
        | ok found => rcases found with _ | _ | _ <;> simp [Call.change?, htext]
      · rw [step, attempt, unregisterValue_other htext]
        cases r.plugins.isEmpty || v.isKey <;> rfl

private theorem standing_registered (p : Plugin) (later : List Change) :
    standing (.registered p :: later) =
      if p.tag ∈ later.map Change.tag then standing later else p :: standing later := by
  simp only [standing, List.mem_map]

/-- Later changes take out what they are about, and add their own. -/
theorem standing_append (log later : List Change) :
    standing (log ++ later) =
      (standing log).filter (fun p => p.tag ∉ later.map Change.tag) ++ standing later := by
  induction log with
  | nil => rfl
  | cons change rest ih =>
    cases change with
    | removed tag => exact ih
    | registered p =>
      have hboth : p.tag ∈ (rest ++ later).map Change.tag ↔
          p.tag ∈ rest.map Change.tag ∨ p.tag ∈ later.map Change.tag := by
        rw [List.map_append, List.mem_append]
      by_cases hrest : p.tag ∈ rest.map Change.tag
      · simp only [List.cons_append, standing_registered, hboth, hrest, true_or, if_true, ih]
      · by_cases hlater : p.tag ∈ later.map Change.tag
        · simp only [List.cons_append, standing_registered, hboth, hrest, hlater, or_true, if_true,
            if_false, List.filter_cons, not_true_eq_false, decide_false, Bool.false_eq_true, ih]
        · simp only [List.cons_append, standing_registered, hboth, hrest, hlater, or_self, if_false,
            List.filter_cons, not_false_eq_true, decide_true, if_true, ih]

private theorem standing_map_registered {ps : List Plugin} (h : (ps.map Plugin.tag).Nodup) :
    standing (ps.map .registered) = ps := by
  induction ps with
  | nil => rfl
  | cons p rest ih =>
    obtain ⟨hp, hrest⟩ := List.nodup_cons.mp h
    have hnew : p.tag ∉ (rest.map Change.registered).map Change.tag := by
      rwa [List.map_map]
    rw [List.map_cons, standing_registered, if_neg hnew, ih hrest]

theorem standing_plugins (r : Registry) : standing (r.plugins.map .registered) = r.plugins :=
  standing_map_registered r.tags_nodup

private theorem standing_step [Limits] (r : Registry) (c : Call) :
    standing (r.plugins.map .registered ++ (c.change? (r.answer c)).toList) =
      (r.step c).plugins := by
  rw [standing_append, standing_plugins]
  rcases r.step_cases c with ⟨hchange, hstep⟩ | ⟨p, hchange, hfree, hstep⟩ | ⟨tag, hchange, hstep⟩
  · rw [hchange, hstep]
    simp [standing]
  · have hkept : r.plugins.filter (fun q => q.tag ≠ p.tag) = r.plugins := filter_ne hfree
    rw [hchange, hstep]
    simpa [standing, Change.tag] using hkept
  · rw [hchange, hstep]
    simp [standing, Change.tag]

/-- What a registry holds after some calls can be read off their history. -/
theorem plugins_run [Limits] (r : Registry) (calls : List Call) :
    (r.run calls).plugins = standing (r.history calls) := by
  induction calls generalizing r with
  | nil =>
    rw [history, changes, List.append_nil, standing_plugins]
    rfl
  | cons c rest ih =>
    have hlog : standing (r.history (c :: rest)) = standing ((r.step c).history rest) := by
      rw [history, changes, history, ← List.append_assoc, standing_append, standing_step,
        standing_append, standing_plugins]
    rw [hlog, ← ih]
    rfl

section

variable (r : Registry)

private theorem containsValue_eq (v : Value) : r.containsValue v =
    if v.isKey then .ok (v.text?.any fun tag => tag ∈ r.tags) else .error .notAKey := by
  have hfound : (v.text?.bind r.find?).isSome = v.text?.any fun tag => tag ∈ r.tags := by
    cases v.text? with
    | none => rfl
    | some tag => exact isSome_find? r tag
  rw [containsValue, hfound]

theorem getValueBy_eq_ok_iff [Limits] (score : Text → Text → Score) (v : Value) (p : Plugin) :
    r.getValueBy score v = .ok p ↔ p ∈ r.plugins ∧ v = .text p.tag := by
  have htext (tag : Text) : r.getValueBy score (.text tag) = .ok p ↔ r.find? tag = some p := by
    have hget : r.getValueBy score (.text tag) = (r.getBy score tag).mapError .report := rfl
    rw [hget, mapError_eq_ok_iff, getBy]
    cases r.find? tag <;> simp
  cases hv : v.text? with
  | some tag =>
    obtain rfl := Value.text?_eq_some_iff.mp hv
    rw [htext, find?_eq_some_iff]
    simp [eq_comm]
  | none =>
    have hfails : r.getValueBy score v ≠ .ok p := by
      rw [getValueBy, hv]
      dsimp only
      split <;> exact nofun
    refine iff_of_false hfails ?_
    rintro ⟨-, rfl⟩
    cases hv

theorem getValue_eq_ok_iff [Limits] (v : Value) (p : Plugin) :
    r.getValue v = .ok p ↔ p ∈ r.plugins ∧ v = .text p.tag :=
  r.getValueBy_eq_ok_iff Text.similarity v p

/-- A tag is looked up in vain without a report if it is no key, or if it cannot be written into the
report. -/
theorem getValue_misuse [Limits] {t : Value} {m : Misuse}
    (h : r.getValue t = .error (.misuse m)) :
    t.text? = none ∧ (t.isKey = false ∧ m = .notAKey ∨ t.isKey ∧
      (Report.unknownLanguage t r.known .null).obstacle? = some m) := by
  unfold getValue getValueBy at h
  split at h
  · obtain ⟨e, -, he⟩ := mapError_eq_error_iff.mp h
    cases he
  · next htext =>
    refine ⟨htext, ?_⟩
    split at h
    · next hkey =>
      unfold Report.failure at h
      split at h
      · cases h
      · next e he =>
        cases h
        exact .inr ⟨hkey, he⟩
    · next hkey =>
      cases h
      exact .inl ⟨by simpa using hkey, rfl⟩

private theorem answer_register_eq_error_iff [Limits] (p : Plugin) :
    (∃ e, r.answer (.register p) = .error e) ↔ p.tag ∈ r.tags := by
  rw [answer]
  by_cases h : p.tag ∈ r.tags
  · rw [attempt_register_of_mem h]
    exact ⟨fun _ => h, fun _ => ⟨_, rfl⟩⟩
  · rw [attempt_register_of_not_mem h]
    constructor
    · rintro ⟨e, he⟩
      cases he
    · intro hmem
      exact absurd hmem h

private theorem answer_provide_eq_error_iff [Limits] (v : Value) (p : Plugin) :
    (∃ e, r.answer (.provide v p) = .error e) ↔ v ≠ .text p.tag ∨ p.tag ∈ r.tags := by
  by_cases hown : v = .text p.tag
  · subst hown
    rw [answer, attempt_provide_own, ← answer, answer_register_eq_error_iff]
    simp
  · rw [answer, attempt, provide_other hown]
    exact ⟨fun _ => Or.inl hown, fun _ => ⟨_, rfl⟩⟩

private theorem answer_unregister [Limits] (v : Value) : r.answer (.unregister v) =
    if r.plugins.isEmpty then .ok (some false)
    else if v.isKey then .ok (some (v.text?.any fun tag => tag ∈ r.tags))
    else .error (.misuse .notAKey) := by
  by_cases hempty : r.plugins.isEmpty = true
  · rw [answer, attempt, unregisterValue, if_pos hempty, if_pos hempty]
    rfl
  · rw [if_neg hempty, answer]
    cases htext : v.text? with
    | some tag =>
      obtain rfl := Value.text?_eq_some_iff.mp htext
      rw [attempt_unregister_text]
      rfl
    | none =>
      rw [attempt, unregisterValue_other htext, (Bool.not_eq_true _).mp hempty]
      cases v.isKey <;> rfl

private theorem step_of_error [Limits] (c : Call) (e : Failure) (h : r.answer c = .error e) :
    r.step c = r := by
  have hfails : r.attempt c = .error e := map_eq_error_iff.mp h
  rw [step, hfails]

private theorem exists_classifyWorkbook?_iff (overwrite : Bool) (w : Workbook) :
    (∃ w', r.classifyWorkbook? overwrite w = .ok w') ↔
      ∀ sc ∈ w.scenes, ∀ f ∈ sc.fragments, ∀ p ∈ r.plugins, p.tag = f.language →
        overwrite = true ∨ f.classification = none → p.language.isBrokenBy f.code = false := by
  have hdecides : (∃ w', r.classifyWorkbook? overwrite w = .ok w') ↔ r.DecidesAll overwrite w := by
    simp [classifyWorkbook?_eq_ok_iff]
  have hasks (f : Fragment) (p : Plugin) : p ∈ r.classifies overwrite f ↔
      (p ∈ r.plugins ∧ p.tag = f.language) ∧ (overwrite = true ∨ f.classification = none) := by
    rw [mem_classifies_iff, Option.mem_def, find?_eq_some_iff]
  simp only [hdecides, DecidesAll, decides_iff, hasks, and_imp, Language.isBrokenBy_eq_false_iff]

variable {tag : Text} {overwrite : Bool} {w : Workbook}

private theorem projection_of_kept
    (h : ∀ sc ∈ w.scenes, ∀ f ∈ sc.fragmentsOf tag, r.classifyFragment overwrite f = f) :
    (r.classifyWorkbook overwrite w).projection tag = w.projection tag := by
  have hown : ∀ sc ∈ w.scenes,
      (r.classifyScene overwrite sc).fragmentsOf tag = sc.fragmentsOf tag := by
    intro sc hsc
    rw [fragmentsOf_classifyScene, List.map_congr_left (h sc hsc), List.map_id']
  simp only [Workbook.projection, classifyWorkbook, List.map_map]
  refine congrArg _ (List.map_congr_left fun sc hsc => ?_)
  rw [Function.comp_apply, hown sc hsc]
  rfl

private theorem exists_of_projection_ne (hall : r.DecidesAll overwrite w)
    (h : (r.classifyWorkbook overwrite w).projection tag ≠ w.projection tag) :
    ∃ p ∈ r.plugins, p.tag = tag ∧ ∃ code, p.language.isBrokenBy code = false := by
  by_contra hbroken
  apply h
  refine r.projection_of_kept fun sc hsc f hf => ?_
  obtain ⟨hmem, hlanguage⟩ := List.mem_filter.mp hf
  unfold classifyFragment
  split
  · rfl
  · next p hp =>
    obtain ⟨hfind, -⟩ := (r.mem_classifies_iff overwrite).mp hp
    obtain ⟨hplugin, htag⟩ := mem_of_find? hfind
    refine absurd ⟨p, hplugin, htag.trans (of_decide_eq_true hlanguage), f.code, ?_⟩ hbroken
    rw [Language.isBrokenBy_eq_false_iff]
    exact (r.decides_iff overwrite f).mp (hall sc hsc f hmem) p hp

def fresh (tag code : Text) : Workbook := ⟨[], [⟨0, [⟨tag, code, [], none⟩]⟩], []⟩

private theorem touches_iff (tag : Text) :
    (∃ overwrite w w', r.classifyWorkbook? overwrite w = .ok w' ∧
      w'.projection tag ≠ w.projection tag) ↔
        ∃ p ∈ r.plugins, p.tag = tag ∧ ∃ code, p.language.isBrokenBy code = false := by
  constructor
  · rintro ⟨overwrite, w, w', hclassified, hother⟩
    obtain ⟨hall, rfl⟩ := (r.classifyWorkbook?_eq_ok_iff overwrite).mp hclassified
    exact r.exists_of_projection_ne hall hother
  · rintro ⟨p, hp, rfl, code, hcode⟩
    have hfind : r.find? p.tag = some p := find?_eq_some_iff.mpr ⟨hp, rfl⟩
    have hall : r.DecidesAll false (fresh p.tag code) := by
      simp only [fresh, DecidesAll, List.forall_mem_singleton, decides_iff, mem_classifies_iff,
        hfind]
      rintro p' ⟨⟨⟩, -⟩
      exact (p.language.isBrokenBy_eq_false_iff code).mp hcode
    refine ⟨false, fresh p.tag code, _, (r.classifyWorkbook?_eq_ok_iff false).mpr ⟨hall, rfl⟩, ?_⟩
    rw [projection_classifyWorkbook p.tag false hfind]
    simp [fresh, Workbook.projection, Scene.fragmentsOf]

theorem shows_plugins [Limits] : r.Shows r.plugins where
  tags := rfl
  nodup := r.tags_nodup
  size := rfl
  own tag p h := (mem_of_find? h).2
  contains := r.containsValue_eq
  get := r.getValue_eq_ok_iff
  register := r.answer_register_eq_error_iff
  provide := r.answer_provide_eq_error_iff
  unregister := r.answer_unregister
  unchanged := r.step_of_error
  collated := r.collateAll_eq_ok_iff
  collates w hlines hkeys := by
    obtain ⟨lines, himports⟩ := hlines
    obtain ⟨found, hfound⟩ := r.exists_collateAll himports hkeys
    exact ⟨found, hfound, tags_of_collateAll hfound⟩
  decides := r.exists_classifyWorkbook?_iff
  touches := r.touches_iff
  classified overwrite w w' hclassified p hp := by
    obtain ⟨_, rfl⟩ := (r.classifyWorkbook?_eq_ok_iff overwrite).mp hclassified
    exact projection_classifyWorkbook p.tag overwrite (find?_eq_some_iff.mpr ⟨hp, rfl⟩) w

end

/-- After any calls, failing ones among them, a registry answers as the list of the plugins that
were registered last under their tags, in the order of these registrations. -/
theorem run_shows_standing [Limits] (r : Registry) (calls : List Call) :
    (r.run calls).Shows (standing (r.history calls)) := by
  rw [← plugins_run]
  exact shows_plugins (r.run calls)

/-- A tag that is registered anew moves to the end, and one that is taken stays where it is. -/
example : ((web default).run [.unregister (.text "css"), .register ⟨Language.css, default⟩,
    .register ⟨Language.html, default⟩]).tags = ["html", "svg", "js", "css"] := by
  decide

end Registry

end SceneBook
