import SceneBook.Proofs.Results
import SceneBook.Proofs.Settings.Merging
import SceneBook.Proofs.Value.Collections
import SceneBook.Proofs.Yaml.Keys
import SceneBook.Settings.Manager
import SceneBook.Value.Equality

/-!
# What loading comes to

Loading gives settings that have passed their check, or a report of what is wrong with them, except
in four cases: mappings of both files are nested too deep, the entry under `output` is no mapping
and a variable should be written into it or a setting be read from it, and a refused value is nested
too deep or holds a number that is too long to be shown in a message.
-/

namespace SceneBook

namespace Value

variable {v : Value}

private theorem put?_eq_none_iff (k : Scalar) (new : Value) :
    v.put? k new = none ↔ v.map? = none := by
  constructor
  · intro h
    cases hmap : v.map? with
    | none => rfl
    | some es => obtain rfl | ⟨l, bs, rfl, -⟩ := map?_eq_some hmap <;> cases h
  · intro h
    unfold put?
    split
    · cases h
    · cases h
    · rfl

private theorem map?_ne_none_of_put? {k : Scalar} {new out : Value} (h : v.put? k new = some out) :
    out.map? ≠ none := by
  unfold put? at h
  split at h <;> cases h <;> nofun

end Value

namespace Settings

theorem File.keyed_entries {f : File} {es : Entries Value} (h : f.entries = .ok es) :
    (Value.map es).Keyed := by
  unfold File.entries at h
  split at h
  · cases h
    exact .map Entries.distinct_nil nofun
  · cases h
    exact .map Entries.distinct_nil nofun
  · cases h
  · cases h
  · split at h
    · cases h
    · next v hv =>
      split at h
      · cases h
        exact .map Entries.distinct_nil nofun
      · split at h
        · next es' hes =>
          cases h
          exact (Yaml.keyed_read hv).map? hes
        · cases h

theorem File.entries_of_map? {f : File} {content : List Char} {v : Value} {es : Entries Value}
    (hf : f.entry = .file content) (hread : Yaml.read content = .ok v) (hmap : v.map? = some es) :
    f.entries = .ok es := by
  unfold entries
  rw [hf]
  dsimp only
  rw [hread]
  dsimp only
  rw [Value.isTruthy_of_map? hmap, hmap]
  cases es <;> rfl

/-- There is something under `output`, and it is no mapping. -/
def Misplaced (output? : Option Value) : Prop := ∃ v, output? = some v ∧ v.map? = none

/-- The entry under `output` that counts: that of the project, or else that of the user. -/
def leadingOutput (user project : Entries Value) : Option Value :=
  (project.field? "output").or (user.field? "output")

private theorem overlayAt_misplaced
    {merge : Entries Value → Entries Value → Except Misuse (Entries Value)}
    {b? v? r? : Option Value} (h : overlayAt merge b? v? = .ok r?) {v : Value} :
    r? = some v ∧ v.map? = none ↔ v?.or b? = some v ∧ v.map? = none := by
  cases v? with
  | none =>
    cases h
    rfl
  | some later =>
    obtain ⟨r, hr, rfl⟩ := map_eq_ok_iff.mp h
    rw [Option.some_or]
    rcases overlay_eq_ok hr with ⟨-, rfl⟩ | ⟨bs, vs, es, -, hvs, -, rfl⟩
    · rfl
    · constructor
      · rintro ⟨⟨⟩, hmap⟩
        cases hmap
      · rintro ⟨⟨⟩, hmap⟩
        rw [hvs] at hmap
        cases hmap

/-- What a variable gives if it is set; an empty one counts as not set. -/
def variableText (environment : List (Text × Text)) (name : Text) : Option Text :=
  (environment.lookup name).filter fun v => !v.isEmpty

private theorem putField_eq_error_iff {es : Entries Value} {field value : Text} {e : Misuse} :
    putField es field value = .error e ↔ e = .notWritable ∧ Misplaced (es.field? "output") := by
  have hmisplaced : Misplaced (es.field? "output") ↔
      ((es.field? "output").getD (.map [])).put? (.text field) (.text value) = none := by
    rw [Value.put?_eq_none_iff]
    cases es.field? "output" with
    | none => exact ⟨nofun, nofun⟩
    | some v => simp [Misplaced]
  rw [hmisplaced]
  unfold putField
  split
  · next out hout => simp [hout]
  · next hnone => simp [hnone, eq_comm]

private theorem putField_placed {es es' : Entries Value} {field value : Text}
    (h : putField es field value = .ok es') : ¬ Misplaced (es'.field? "output") := by
  unfold putField at h
  split at h
  · next out hout =>
    cases h
    rintro ⟨v, hv, hmap⟩
    rw [Entries.field?, Entries.find?_put, if_pos (Scalar.same_self _)] at hv
    cases hv
    exact Value.map?_ne_none_of_put? hout hmap
  · cases h

/-- Some of the variables is set. -/
def AnySet (environment : List (Text × Text)) (vars : List (Text × Text)) : Prop :=
  ∃ p ∈ vars, variableText environment p.1 ≠ none

theorem applyVariables_cons (environment : List (Text × Text)) (es : Entries Value)
    (name field : Text) (rest : List (Text × Text)) :
    applyVariables environment es ((name, field) :: rest) =
      match variableText environment name with
      | none => applyVariables environment es rest
      | some v => putField es field v >>= fun es => applyVariables environment es rest := rfl

private theorem applyVariables_eq_error_iff {environment vars : List (Text × Text)}
    {es : Entries Value} {e : Misuse} :
    applyVariables environment es vars = .error e ↔
      e = .notWritable ∧ AnySet environment vars ∧ Misplaced (es.field? "output") := by
  induction vars generalizing es with
  | nil => simp [applyVariables, AnySet]
  | cons p rest ih =>
    obtain ⟨name, field⟩ := p
    rw [applyVariables_cons]
    cases hv : variableText environment name with
    | none =>
      have hset : AnySet environment ((name, field) :: rest) ↔ AnySet environment rest := by
        simp [AnySet, hv]
      rw [hset]
      exact ih
    | some v =>
      have hset : AnySet environment ((name, field) :: rest) :=
        ⟨(name, field), List.mem_cons_self, by simp [hv]⟩
      rw [bind_eq_error_iff, putField_eq_error_iff]
      constructor
      · rintro (⟨rfl, hmisplaced⟩ | ⟨es', hput, h⟩)
        · exact ⟨rfl, hset, hmisplaced⟩
        · -- After the first write the entry is a mapping, and the others cannot fail.
          exact absurd (ih.mp h).2.2 (putField_placed hput)
      · rintro ⟨rfl, -, hmisplaced⟩
        exact .inl ⟨rfl, hmisplaced⟩

theorem applyVariables_unset {environment vars : List (Text × Text)}
    (h : ¬ AnySet environment vars) (es : Entries Value) :
    applyVariables environment es vars = .ok es := by
  induction vars with
  | nil => rfl
  | cons p rest ih =>
    obtain ⟨name, field⟩ := p
    have hnone : variableText environment name = none := by
      by_contra hv
      exact h ⟨(name, field), List.mem_cons_self, hv⟩
    rw [applyVariables_cons, hnone]
    exact ih fun ⟨q, hq, hset⟩ => h ⟨q, List.mem_cons_of_mem _ hq, hset⟩

private theorem applyVariables_keeps_placed {environment vars : List (Text × Text)}
    {es es' : Entries Value} (hes : ¬ Misplaced (es.field? "output"))
    (h : applyVariables environment es vars = .ok es') :
    ¬ Misplaced (es'.field? "output") := by
  induction vars generalizing es with
  | nil =>
    cases h
    exact hes
  | cons p rest ih =>
    obtain ⟨name, field⟩ := p
    rw [applyVariables_cons] at h
    split at h
    · exact ih hes h
    · obtain ⟨es₁, hput, h⟩ := bind_eq_ok_iff.mp h
      exact ih (putField_placed hput) h

/-- Where a variable could be written, the settings can be read. -/
theorem applyVariables_placed {environment vars : List (Text × Text)}
    {es es' : Entries Value} (hset : AnySet environment vars)
    (h : applyVariables environment es vars = .ok es') :
    ¬ Misplaced (es'.field? "output") := by
  refine applyVariables_keeps_placed (fun hmisplaced => ?_) h
  have hfails := applyVariables_eq_error_iff.mpr ⟨rfl, hset, hmisplaced⟩
  rw [h] at hfails
  cases hfails

private theorem outputEntries_eq_error_iff {es : Entries Value} {e : Misuse} :
    outputEntries es = .error e ↔
      e = .noSuchPart ∧ ∃ v, es.field? "output" = some v ∧ v.map? = none ∧ v.isTruthy := by
  unfold outputEntries
  cases es.field? "output" with
  | none => exact ⟨nofun, nofun⟩
  | some v =>
    simp only [Option.some.injEq, exists_eq_left']
    cases htruthy : v.isTruthy with
    | false => simp
    | true => cases hmap : v.map? <;> simp [eq_comm]

namespace Sources

variable {s : Sources} {user project : Entries Value} {e : Misuse}

theorem settings_eq [Limits] (hu : s.user.entries = .ok user)
    (hp : s.project.entries = .ok project) :
    s.settings = (do
      let es ← layer user project
      let es ← applyVariables s.environment es fieldVariables
      ofDocument (.map es)).mapError .misuse := by
  rw [settings, entries, hu, hp]
  have huser : layer [] user = .ok user := layer_nil (File.keyed_entries hu).distinct
  simp only [bind, Except.bind, huser]
  cases layer user project with
  | error e => rfl
  | ok es =>
    dsimp only
    cases applyVariables s.environment es fieldVariables <;> rfl

theorem load_of_valid [Limits] {t : Settings} (ht : s.settings = .ok t) (hf : t.fault? = none) :
    s.load = .ok t := by
  rw [load, ht]
  simp only [bind, Except.bind, hf]

theorem fault?_of_load [Limits] {t : Settings} (h : s.load = .ok t) : t.fault? = none := by
  obtain ⟨t', -, h⟩ := bind_eq_ok_iff.mp h
  cases hf : t'.fault? with
  | none =>
    simp only [hf, Except.ok.injEq] at h
    rwa [← h]
  | some f => cases hshown : f.obstacle? <;> simp [hf, hshown] at h

theorem load_of_fault [Limits] {t : Settings} {f : SettingsFault} (ht : s.settings = .ok t)
    (hf : t.fault? = some f) (hshown : f.obstacle? = none) :
    s.load = .error (.report (.config f.message [(.text "config", t.toDocument)])) := by
  rw [load, ht]
  simp only [bind, Except.bind, hf, hshown]

theorem load_of_obstacle [Limits] {t : Settings} {f : SettingsFault} (ht : s.settings = .ok t)
    (hf : t.fault? = some f) (hhidden : f.obstacle? = some e) :
    s.load = .error (.misuse e) := by
  rw [load, ht]
  simp only [bind, Except.bind, hf, hhidden]

/-- Why loading the sources fails with something else than a report. -/
inductive Escapes [Limits] (s : Sources) (user project : Entries Value) : Misuse → Prop
  /-- Mappings of both files stand in each other deeper than they are merged. -/
  | tooDeep (h : Nested Limits.merge user project) : s.Escapes user project .tooDeep
  /-- A variable is to be written into something that is no mapping. -/
  | notWritable (hmerged : ¬ Nested Limits.merge user project)
    (hset : AnySet s.environment fieldVariables)
    (hmisplaced : Misplaced (leadingOutput user project)) : s.Escapes user project .notWritable
  /-- The settings are to be read from something that is neither a mapping nor empty. -/
  | noSuchPart (hmerged : ¬ Nested Limits.merge user project)
    (hunset : ¬ AnySet s.environment fieldVariables) {v : Value}
    (hv : leadingOutput user project = some v) (hmap : v.map? = none) (htruthy : v.isTruthy) :
    s.Escapes user project .noSuchPart
  /-- The value that the check refuses is too deep or too long to be shown in a message. -/
  | hidden {t : Settings} {f : SettingsFault} {e : Misuse} (ht : s.settings = .ok t)
    (hf : t.fault? = some f) (hhidden : f.obstacle? = some e) : s.Escapes user project e

theorem output_merged [Limits] {es : Entries Value} (hp : s.project.entries = .ok project)
    (hes : layer user project = .ok es) :
    overlayAt (mergeWithin (Limits.merge - 1)) (user.field? "output") (project.field? "output") =
      .ok (es.field? "output") := by
  rw [layer_eq_overlayEach] at hes
  exact find?_overlayEach (File.keyed_entries hp).distinct hes (.text "output")

theorem misplaced_merged [Limits] {es : Entries Value} (hp : s.project.entries = .ok project)
    (hes : layer user project = .ok es) {v : Value} :
    es.field? "output" = some v ∧ v.map? = none ↔
      leadingOutput user project = some v ∧ v.map? = none :=
  overlayAt_misplaced (output_merged hp hes)

private theorem escapes_of_settings [Limits] {f : Failure} (hu : s.user.entries = .ok user)
    (hp : s.project.entries = .ok project) (h : s.settings = .error f) :
    ∃ e, f = .misuse e ∧ s.Escapes user project e := by
  rw [settings_eq hu hp] at h
  obtain ⟨e, h, hf⟩ := mapError_eq_error_iff.mp h
  refine ⟨e, hf.symm, ?_⟩
  have hproject := File.keyed_entries hp
  rcases bind_eq_error_iff.mp h with h | ⟨es, hes, h⟩
  · obtain ⟨rfl, hdeep⟩ := (mergeWithin_eq_error_iff hproject).mp h
    exact .tooDeep hdeep
  have hmerged : ¬ Nested Limits.merge user project := by
    intro hdeep
    have hfails : layer user project = .error .tooDeep :=
      (mergeWithin_eq_error_iff hproject).mpr ⟨rfl, hdeep⟩
    rw [hes] at hfails
    cases hfails
  rcases bind_eq_error_iff.mp h with h | ⟨es', hes', h⟩
  · obtain ⟨rfl, hset, v, hv⟩ := applyVariables_eq_error_iff.mp h
    exact .notWritable hmerged hset ⟨v, (misplaced_merged hp hes).mp hv⟩
  · obtain ⟨rfl, v, hv, hmap, htruthy⟩ := outputEntries_eq_error_iff.mp (map_eq_error_iff.mp h)
    by_cases hset : AnySet s.environment fieldVariables
    · exact absurd ⟨v, hv, hmap⟩ (applyVariables_placed hset hes')
    · rw [applyVariables_unset hset] at hes'
      cases hes'
      exact .noSuchPart hmerged hset ((misplaced_merged hp hes).mp ⟨hv, hmap⟩).1 hmap htruthy

theorem Escapes.load [Limits] (hu : s.user.entries = .ok user)
    (hp : s.project.entries = .ok project)
    (h : s.Escapes user project e) : s.load = .error (.misuse e) := by
  have hmerge (hmerged : ¬ Nested Limits.merge user project) :
      ∃ es, layer user project = .ok es := exists_mergeWithin (File.keyed_entries hp) hmerged
  have hsettings (he : s.settings = .error (.misuse e)) : s.load = .error (.misuse e) := by
    rw [Sources.load, he]
    rfl
  cases h with
  | tooDeep hdeep =>
    have hfails : layer user project = .error .tooDeep :=
      (mergeWithin_eq_error_iff (File.keyed_entries hp)).mpr ⟨rfl, hdeep⟩
    refine hsettings ?_
    rw [settings_eq hu hp, hfails]
    rfl
  | notWritable hmerged hset hmisplaced =>
    obtain ⟨es, hes⟩ := hmerge hmerged
    obtain ⟨v, hv⟩ := hmisplaced
    have hfails : applyVariables s.environment es fieldVariables = .error .notWritable :=
      applyVariables_eq_error_iff.mpr ⟨rfl, hset, v, (misplaced_merged hp hes).mpr hv⟩
    refine hsettings ?_
    simp only [settings_eq hu hp, hes, bind, Except.bind, hfails]
    rfl
  | noSuchPart hmerged hunset hv hmap htruthy =>
    obtain ⟨es, hes⟩ := hmerge hmerged
    have hout := (misplaced_merged hp hes).mpr ⟨hv, hmap⟩
    have hfails : ofDocument (.map es) = .error .noSuchPart :=
      map_eq_error_iff.mpr (outputEntries_eq_error_iff.mpr ⟨rfl, _, hout.1, hmap, htruthy⟩)
    refine hsettings ?_
    simp only [settings_eq hu hp, hes, bind, Except.bind, applyVariables_unset hunset, hfails]
    rfl
  | hidden ht hf hhidden => exact load_of_obstacle ht hf hhidden

/-- Loading gives settings that pass their check, or a report, or it escapes. -/
theorem load_cases [Limits] (hu : s.user.entries = .ok user)
    (hp : s.project.entries = .ok project) :
    (∃ t, s.load = .ok t ∧ t.fault? = none) ∨
      (∃ message context, s.load = .error (.report (.config message context))) ∨
      ∃ e, s.load = .error (.misuse e) ∧ s.Escapes user project e := by
  cases ht : s.settings with
  | error f =>
    obtain ⟨e, rfl, hescapes⟩ := escapes_of_settings hu hp ht
    exact .inr (.inr ⟨e, hescapes.load hu hp, hescapes⟩)
  | ok t =>
    cases hf : t.fault? with
    | none => exact .inl ⟨t, load_of_valid ht hf, hf⟩
    | some f =>
      cases hshown : f.obstacle? with
      | none => exact .inr (.inl ⟨_, _, load_of_fault ht hf hshown⟩)
      | some e => exact .inr (.inr ⟨e, load_of_obstacle ht hf hshown, .hidden ht hf hshown⟩)

private theorem load_eq_misuse_iff [Limits] (hu : s.user.entries = .ok user)
    (hp : s.project.entries = .ok project) :
    s.load = .error (.misuse e) ↔ s.Escapes user project e := by
  constructor
  · intro h
    rcases load_cases hu hp with ⟨t, ht, -⟩ | ⟨message, context, hreport⟩ | ⟨e', he, hescapes⟩
    · rw [h] at ht
      cases ht
    · rw [h] at hreport
      cases hreport
    · rw [h] at he
      cases he
      exact hescapes
  · intro h
    exact h.load hu hp

end Sources

namespace Manager

variable {m : Manager} {s : Sources} {user project : Entries Value}

theorem load_fresh [Limits] (h : m.kept = none) (s : Sources) :
    (m.load s).2 = s.load.map (Kept.mk m.nextMark) := by
  unfold load
  rw [h]
  cases s.load <;> rfl

theorem load_kept [Limits] {k : Kept} (h : m.kept = some k) (s : Sources) :
    (m.load s).2 = .ok k := by
  unfold load
  rw [h]

/-- The answer to a load is settings that pass their check, or a report of a configuration. -/
def Answers (r : Except Failure Kept) : Prop :=
  (∃ k, r = .ok k ∧ k.settings.fault? = none) ∨
    ∃ message context, r = .error (.report (.config message context))

private theorem not_answers_misuse (e : Misuse) : ¬ Answers (.error (.misuse e)) := by
  rintro (⟨k, hk, -⟩ | ⟨message, context, hreport⟩)
  · cases hk
  · cases hreport

private theorem answers_load [Limits] (hm : m.kept = none) (hu : s.user.entries = .ok user)
    (hp : s.project.entries = .ok project) (h : ∀ e, ¬ s.Escapes user project e) :
    Answers (m.load s).2 := by
  rw [load_fresh hm]
  rcases Sources.load_cases hu hp with ⟨t, ht, hvalid⟩ | ⟨message, context, hreport⟩ | ⟨e, -, he⟩
  · rw [ht]
    exact .inl ⟨_, rfl, hvalid⟩
  · rw [hreport]
    exact .inr ⟨message, context, rfl⟩
  · exact absurd he (h e)

/-- Whatever the two files hold, if it is entries, and whatever the environment is: a manager that
has kept nothing unchecked answers to a load unless it escapes, and it is known when and how. -/
theorem load_answers_iff [Limits] (hm : ∀ k ∈ m.kept, k.settings.fault? = none)
    (hu : s.user.entries = .ok user) (hp : s.project.entries = .ok project) :
    (Answers (m.load s).2 ↔ ∀ e, m.kept = none → ¬ s.Escapes user project e) ∧
      ∀ e, (m.load s).2 = .error (.misuse e) ↔ m.kept = none ∧ s.Escapes user project e := by
  cases hkept : m.kept with
  | some k =>
    rw [load_kept hkept]
    exact ⟨⟨nofun, fun _ => .inl ⟨k, rfl, hm k hkept⟩⟩, fun e => ⟨nofun, nofun⟩⟩
  | none =>
    have hescapes (e : Misuse) :
        (m.load s).2 = .error (.misuse e) ↔ s.Escapes user project e := by
      rw [load_fresh hkept, map_eq_error_iff, Sources.load_eq_misuse_iff hu hp]
    refine ⟨⟨fun hanswers e _ he => ?_, fun h => answers_load hkept hu hp fun e => h e rfl⟩,
      fun e => by simp [hescapes]⟩
    rw [(hescapes e).mpr he] at hanswers
    exact not_answers_misuse e hanswers

/-- A file of the project that gives nothing under `output`, and a variable. -/
def emptyOutput : Sources :=
  ⟨⟨"user.yaml", .missing⟩, ⟨"project.yaml", .file "output:\n".toList⟩,
    [("KRAM_STORE_ROOT_KEY", "ab")]⟩

private theorem emptyOutput_entries :
    emptyOutput.project.entries = .ok [(.text "output", .null)] :=
  have hread : Yaml.read "output:\n".toList = .ok (.map [(.text "output", .null)]) := by
    decide +kernel
  File.entries_of_map? rfl hread rfl

theorem load_emptyOutput_notWritable :
    first.kept = none ∧ emptyOutput.user.entries = .ok [] ∧
      emptyOutput.project.entries = .ok [(.text "output", .null)] ∧
      (first.load emptyOutput).2 = .error (.misuse .notWritable) := by
  have hu : emptyOutput.user.entries = .ok [] := rfl
  have hm : ∀ k ∈ first.kept, k.settings.fault? = none := fun k hk => by cases hk
  refine ⟨rfl, hu, emptyOutput_entries, ?_⟩
  refine ((load_answers_iff hm hu emptyOutput_entries).2 .notWritable).mpr ⟨rfl, ?_⟩
  refine .notWritable ?_ ?_ ⟨.null, rfl, rfl⟩
  · rintro ⟨k, bs, vs, hbs, -⟩
    cases hbs
  · exact ⟨("KRAM_STORE_ROOT_KEY", "store_root_key"), by decide +kernel, by decide +kernel⟩

/-- A file of the project that gives a text under `output`. -/
def scalarOutput : Sources :=
  ⟨⟨"user.yaml", .missing⟩, ⟨"project.yaml", .file "output: x\n".toList⟩, []⟩

theorem load_scalarOutput_unanswered :
    Yaml.read "output: x\n".toList = .ok (.map [(.text "output", .text "x")]) ∧
      (first.load scalarOutput).2 = .error (.misuse .noSuchPart) ∧
      ¬ Answers (first.load scalarOutput).2 := by
  have hread : Yaml.read "output: x\n".toList = .ok (.map [(.text "output", .text "x")]) := by
    decide +kernel
  have hp : scalarOutput.project.entries = .ok [(.text "output", .text "x")] :=
    File.entries_of_map? rfl hread rfl
  have hescapes : scalarOutput.Escapes [] [(.text "output", .text "x")] .noSuchPart := by
    refine .noSuchPart ?_ ?_ (v := .text "x") rfl rfl (by decide +kernel)
    · rintro ⟨k, bs, vs, hbs, -⟩
      cases hbs
    · rintro ⟨p, -, hset⟩
      exact hset rfl
  have hload : (first.load scalarOutput).2 = .error (.misuse .noSuchPart) := by
    rw [load_fresh rfl, hescapes.load rfl hp]
    rfl
  refine ⟨hread, hload, ?_⟩
  rw [hload]
  exact not_answers_misuse .noSuchPart

end Manager

end Settings

end SceneBook
