import SceneBook.Proofs.Settings.Loading

/-!
# Precedence of settings

Each of the four settings is decided by itself: a variable counts before the files, the file of the
project before that of the user, and what none of them gives is the default. Two mappings under one
field are merged. Nothing else in the files has an influence on the settings.
-/

namespace SceneBook

namespace Settings

variable {environment vars : List (Text × Text)} {es user project : Entries Value}

/-- The mapping under `output`; where there is none it counts as empty. -/
def outputOf (es : Entries Value) : Entries Value :=
  ((es.field? "output").bind Value.map?).getD []

private theorem outputOf_put (es out : Entries Value) :
    outputOf (es.put (.text "output") (.map out)) = out := by
  rw [outputOf, Entries.field?, Entries.find?_put, if_pos (Scalar.same_self _)]
  rfl

private theorem keyed_outputOf (h : (Value.map es).Keyed) : (Value.map (outputOf es)).Keyed := by
  unfold outputOf
  cases hout : (es.field? "output").bind Value.map? with
  | none => exact .map Entries.distinct_nil nofun
  | some out => exact keyed_of_bind_map? (fun v hv => h.find? hv) hout

private theorem overlayAt_none
    {merge : Entries Value → Entries Value → Except Misuse (Entries Value)}
    (v? : Option Value) : overlayAt merge none v? = .ok v? := by
  cases v? <;> rfl

/-- Two layers come to what one of them has if the other has nothing, and else their mappings are
merged. -/
theorem overlayAt_placed {merge : Entries Value → Entries Value → Except Misuse (Entries Value)}
    {b? v? r? : Option Value} (hb : ¬ Misplaced b?) (hv : ¬ Misplaced v?)
    (h : overlayAt merge b? v? = .ok r?) :
    (v? = none ∧ r? = b?) ∨ (b? = none ∧ r? = v?) ∨
      ∃ bs vs rs, b?.bind Value.map? = some bs ∧ v?.bind Value.map? = some vs ∧
        merge bs vs = .ok rs ∧ r? = some (.map rs) := by
  cases v? with
  | none => exact .inl ⟨rfl, (Except.ok.inj h).symm⟩
  | some v =>
    cases b? with
    | none =>
      rw [overlayAt_none] at h
      exact .inr (.inl ⟨rfl, (Except.ok.inj h).symm⟩)
    | some b =>
      obtain ⟨r, hr, rfl⟩ := map_eq_ok_iff.mp h
      rcases overlay_eq_ok hr with ⟨hb' | hv', -⟩ | ⟨bs, vs, rs, hbs, hvs, hrs, rfl⟩
      · exact absurd ⟨b, rfl, hb'⟩ hb
      · exact absurd ⟨v, rfl, hv'⟩ hv
      · exact .inr (.inr ⟨bs, vs, rs, hbs, hvs, hrs, rfl⟩)

private theorem overlayAt_outputOf [Limits] (hproject : (Value.map project).Keyed)
    (hu : ¬ Misplaced (user.field? "output")) (hp : ¬ Misplaced (project.field? "output"))
    (h : layer user project = .ok es) (field : Text) :
    overlayAt (mergeWithin (Limits.merge - 2)) ((outputOf user).field? field)
      ((outputOf project).field? field) = .ok ((outputOf es).field? field) := by
  rw [layer_eq_overlayEach, merge_pred_eq_succ] at h
  have hkey : overlayAt (mergeWithin (Limits.merge - 2 + 1)) (user.field? "output")
      (project.field? "output") = .ok (es.field? "output") :=
    find?_overlayEach hproject.distinct h (.text "output")
  unfold outputOf
  rcases overlayAt_placed hu hp hkey with
    ⟨hnone, hout⟩ | ⟨hnone, hout⟩ | ⟨bs, vs, rs, hbs, hvs, hrs, hout⟩
  · rw [hnone, hout]
    rfl
  · rw [hnone, hout]
    exact overlayAt_none _
  · rw [hbs, hvs, hout]
    have hkeyed : (Value.map vs).Keyed := keyed_of_bind_map? (fun v hv => hproject.find? hv) hvs
    exact find?_overlayEach hkeyed.distinct hrs (.text field)

/-- What is under `output` can be written to without a change further in. -/
def Plain (es : Entries Value) : Prop := ∀ v, es.field? "output" = some v → v.isMap

def withField (es : Entries Value) (field value : Text) : Entries Value :=
  es.put (.text "output") (.map ((outputOf es).put (.text field) (.text value)))

private theorem putField_plain (hes : Plain es) (field value : Text) :
    putField es field value = .ok (withField es field value) := by
  unfold putField withField outputOf
  cases hout : es.field? "output" with
  | none => rfl
  | some v =>
    have hmap := hes v hout
    cases v with
    | map out => rfl
    | _ => cases hmap

private theorem plain_withField (es : Entries Value) (field value : Text) :
    Plain (withField es field value) := by
  intro v hv
  rw [withField, Entries.field?, Entries.find?_put, if_pos (Scalar.same_self _)] at hv
  cases hv
  rfl

private theorem field?_withField (es : Entries Value) (field value other : Text) :
    (outputOf (withField es field value)).field? other =
      if field = other then some (.text value) else (outputOf es).field? other := by
  rw [withField, outputOf_put, Entries.field?, Entries.find?_put, Scalar.text_same]
  simp only [decide_eq_true_eq]
  rfl

private theorem applyVariables_plain (environment : List (Text × Text))
    (hvars : (vars.map Prod.snd).Nodup) (hes : Plain es) :
    ∃ es', applyVariables environment es vars = .ok es' ∧
      (∀ p ∈ vars, (outputOf es').field? p.2 =
        ((variableText environment p.1).map Value.text).or ((outputOf es).field? p.2)) ∧
      ∀ field ∉ vars.map Prod.snd, (outputOf es').field? field = (outputOf es).field? field := by
  induction vars generalizing es with
  | nil => exact ⟨es, rfl, nofun, fun _ _ => rfl⟩
  | cons p rest ih =>
    obtain ⟨name, field⟩ := p
    obtain ⟨hfield, hrest⟩ := List.nodup_cons.mp hvars
    rw [applyVariables_cons]
    cases hv : variableText environment name with
    | none =>
      obtain ⟨es', hes', hset, hothers⟩ := ih hrest hes
      refine ⟨es', hes', List.forall_mem_cons.mpr ⟨?_, hset⟩, fun other hother => ?_⟩
      · rw [hv]
        exact hothers field hfield
      · exact hothers other fun h => hother (List.mem_cons_of_mem _ h)
    | some v =>
      obtain ⟨es', hes', hset, hothers⟩ := ih hrest (plain_withField es field v)
      simp only [field?_withField] at hset hothers
      dsimp only
      rw [putField_plain hes]
      refine ⟨es', hes', List.forall_mem_cons.mpr ⟨?_, fun q hq => ?_⟩, fun other hother => ?_⟩
      · rw [hothers field hfield, if_pos rfl, hv]
        rfl
      · have hne : field ≠ q.2 := by
          rintro rfl
          exact hfield (List.mem_map.mpr ⟨q, hq, rfl⟩)
        rw [hset q hq, if_neg hne]
      · rw [hothers other fun h => hother (List.mem_cons_of_mem _ h), if_neg]
        rintro rfl
        exact hother List.mem_cons_self

theorem outputEntries_placed (h : ¬ Misplaced (es.field? "output")) :
    outputEntries es = .ok (outputOf es) := by
  unfold outputEntries outputOf
  cases hout : es.field? "output" with
  | none => rfl
  | some v =>
    cases hmap : v.map? with
    | none => exact absurd ⟨v, hout, hmap⟩ h
    | some out =>
      dsimp only
      rw [Value.isTruthy_of_map? hmap, Option.bind_some, hmap]
      cases out <;> rfl

private theorem ofOutput_congr {out out' : Entries Value}
    (h : ∀ p ∈ fieldVariables, out.field? p.2 = out'.field? p.2) :
    ofOutput out = ofOutput out' := by
  simp only [fieldVariables, List.forall_mem_cons] at h
  obtain ⟨helement, hrootKey, hannounce, hnamespace, -⟩ := h
  simp only [ofOutput, ofEntries, helement, hrootKey, hannounce, hnamespace]

/-- Only one of the two files gives something under `output`, namely this. -/
def Sole (user project : Entries Value) (v : Value) : Prop :=
  (user.field? "output" = some v ∧ project.field? "output" = none) ∨
    (user.field? "output" = none ∧ project.field? "output" = some v)

/-- The two files hold these entries, with a mapping under `output` if with anything. They can be
merged, and no variable is written into a mapping that contains itself. -/
structure Sources.Layered [Limits] (s : Sources) (user project : Entries Value) : Prop where
  userEntries : s.user.entries = .ok user
  projectEntries : s.project.entries = .ok project
  userOutput : ¬ Misplaced (user.field? "output")
  projectOutput : ¬ Misplaced (project.field? "output")
  merged : ¬ Nested Limits.merge user project
  plain : AnySet s.environment fieldVariables → ∀ v, Sole user project v → v.isMap

/-- The value that a field comes to: that of its variable, or else what the two files come to, or
else the default. -/
inductive Chosen (environment : List (Text × Text)) (name : Text) (user? project? : Option Value)
    (default : Value) : Value → Prop
  | byVariable {t : Text} (h : variableText environment name = some t) :
    Chosen environment name user? project? default (.text t)
  | byFiles (hunset : variableText environment name = none) {v : Value}
    (h : Overlaid user? project? (some v)) : Chosen environment name user? project? default v
  | byDefault (hunset : variableText environment name = none)
    (h : Overlaid user? project? none) : Chosen environment name user? project? default default

namespace Chosen

variable {name : Text} {user? project? : Option Value} {default v : Value}

private theorem eq_text (h : Chosen environment name user? project? default v) {t : Text}
    (ht : variableText environment name = some t) : v = .text t := by
  cases h with
  | byVariable h =>
    rw [ht] at h
    rw [Option.some.inj h]
  | byFiles hunset | byDefault hunset =>
    rw [ht] at hunset
    cases hunset

private theorem eq_default (h : Chosen environment name none none default v)
    (hunset : variableText environment name = none) : v = default := by
  cases h with
  | byVariable h =>
    rw [hunset] at h
    cases h
  | byFiles _ h => cases h
  | byDefault => rfl

end Chosen

/-- Each of the four settings is the value that its field comes to, by itself; the announcement is
then taken as yes or no. -/
structure Decided (environment : List (Text × Text)) (user project : Entries Value) (t : Settings) :
    Prop where
  sceneElement : Chosen environment "KRAM_SCENE_ELEMENT" (user.field? "scene_element")
    (project.field? "scene_element") default.sceneElement t.sceneElement
  storeRootKey : Chosen environment "KRAM_STORE_ROOT_KEY" (user.field? "store_root_key")
    (project.field? "store_root_key") default.storeRootKey t.storeRootKey
  announceLoad : ∃ v, t.announceLoad = .bool (truth v) ∧
    Chosen environment "KRAM_ANNOUNCE_LOAD" (user.field? "announce_load")
      (project.field? "announce_load") default.announceLoad v
  svgNamespace : Chosen environment "KRAM_SVG_NAMESPACE" (user.field? "svg_namespace")
    (project.field? "svg_namespace") default.svgNamespace t.svgNamespace

private theorem chosen_getD {depth : Nat} {name : Text} {user? project? r? v? : Option Value}
    {default : Value} (hkeyed : ∀ v ∈ project?, v.Keyed)
    (hr : overlayAt (mergeWithin depth) user? project? = .ok r?)
    (hv : v? = ((variableText environment name).map Value.text).or r?) :
    Chosen environment name user? project? default (v?.getD default) := by
  have hover := overlaid_of_overlayAt hkeyed hr
  cases hname : variableText environment name with
  | some t =>
    rw [hv, hname]
    exact .byVariable hname
  | none =>
    rw [hv, hname, Option.map_none, Option.none_or]
    cases r? with
    | none => exact .byDefault hname hover
    | some r => exact .byFiles hname hover

namespace Sources

variable {s s' : Sources} {user' project' : Entries Value}

private theorem Layered.not_misplaced [Limits] (h : s.Layered user project)
    (hes : layer user project = .ok es) :
    ¬ Misplaced (es.field? "output") := by
  rintro ⟨v, hv⟩
  obtain ⟨hlead, hmap⟩ := (misplaced_merged h.projectEntries hes).mp hv
  rcases Option.or_eq_some_iff.mp hlead with hp | ⟨-, hu⟩
  · exact h.projectOutput ⟨v, hp, hmap⟩
  · exact h.userOutput ⟨v, hu, hmap⟩

private theorem Layered.plain_of_anySet [Limits] (h : s.Layered user project)
    (hes : layer user project = .ok es)
    (hset : AnySet s.environment fieldVariables) : Plain es := by
  intro v hv
  rcases overlayAt_placed h.userOutput h.projectOutput (output_merged h.projectEntries hes) with
    ⟨hnone, hout⟩ | ⟨hnone, hout⟩ | ⟨_, _, rs, -, -, -, hout⟩
  · exact h.plain hset v (.inl ⟨hout.symm.trans hv, hnone⟩)
  · exact h.plain hset v (.inr ⟨hnone, hout.symm.trans hv⟩)
  · cases hout.symm.trans hv
    rfl

/-- The settings of the sources field by field: a variable before what the two files come to. -/
theorem Layered.settings [Limits] (h : s.Layered user project) :
    ∃ out, s.settings = .ok (ofOutput out) ∧ ∀ p ∈ fieldVariables, ∃ r?,
      overlayAt (mergeWithin (Limits.merge - 2)) ((outputOf user).field? p.2)
        ((outputOf project).field? p.2) = .ok r? ∧
      out.field? p.2 = ((variableText s.environment p.1).map Value.text).or r? := by
  have hproject := File.keyed_entries h.projectEntries
  obtain ⟨es, hes⟩ : ∃ es, layer user project = .ok es := exists_mergeWithin hproject h.merged
  have hfiles := overlayAt_outputOf hproject h.userOutput h.projectOutput hes
  obtain ⟨es', hes', hplaced, hfields⟩ : ∃ es',
      applyVariables s.environment es fieldVariables = .ok es' ∧
        ¬ Misplaced (es'.field? "output") ∧
        ∀ p ∈ fieldVariables, (outputOf es').field? p.2 =
          ((variableText s.environment p.1).map Value.text).or ((outputOf es).field? p.2) := by
    by_cases hset : AnySet s.environment fieldVariables
    · have hnodup : (fieldVariables.map Prod.snd).Nodup := by decide +kernel
      obtain ⟨es', hes', hfields, -⟩ :=
        applyVariables_plain s.environment hnodup (h.plain_of_anySet hes hset)
      exact ⟨es', hes', applyVariables_placed hset hes', hfields⟩
    · refine ⟨es, applyVariables_unset hset es, h.not_misplaced hes, fun p hp => ?_⟩
      have hnone : variableText s.environment p.1 = none := by
        by_contra hsome
        exact hset ⟨p, hp, hsome⟩
      rw [hnone, Option.map_none, Option.none_or]
  refine ⟨outputOf es', ?_, fun p hp => ⟨_, hfiles p.2, hfields p hp⟩⟩
  rw [settings_eq h.userEntries h.projectEntries]
  simp only [hes, bind, Except.bind, hes']
  change ((outputEntries es').map ofOutput).mapError Failure.misuse = _
  rw [outputEntries_placed hplaced]
  rfl

def SameFields (s s' : Sources) (user project user' project' : Entries Value) : Prop :=
  ∀ p ∈ fieldVariables, variableText s.environment p.1 = variableText s'.environment p.1 ∧
    (outputOf user).field? p.2 = (outputOf user').field? p.2 ∧
    (outputOf project).field? p.2 = (outputOf project').field? p.2

private theorem Layered.settings_congr [Limits] (h : s.Layered user project)
    (h' : s'.Layered user' project')
    (hsame : SameFields s s' user project user' project') : s.settings = s'.settings := by
  obtain ⟨out, hs, hout⟩ := h.settings
  obtain ⟨out', hs', hout'⟩ := h'.settings
  rw [hs, hs', ofOutput_congr]
  intro p hp
  obtain ⟨hvariable, huser, hproject⟩ := hsame p hp
  obtain ⟨r?, hr, hfield⟩ := hout p hp
  obtain ⟨r?', hr', hfield'⟩ := hout' p hp
  rw [huser, hproject, hr'] at hr
  rw [hfield, hfield', hvariable, Except.ok.inj hr]

private theorem Layered.decided [Limits] (h : s.Layered user project) :
    ∃ t, s.settings = .ok t ∧ Decided s.environment (outputOf user) (outputOf project) t := by
  obtain ⟨out, hs, hout⟩ := h.settings
  have hkeyed (field : Text) : ∀ v ∈ (outputOf project).field? field, v.Keyed := fun v hv =>
    (keyed_outputOf (File.keyed_entries h.projectEntries)).find? hv
  refine ⟨ofOutput out, hs, ?_⟩
  simp only [fieldVariables, List.forall_mem_cons] at hout
  obtain ⟨⟨_, helement, hout₁⟩, ⟨_, hrootKey, hout₂⟩, ⟨_, hannounce, hout₃⟩,
    ⟨_, hnamespace, hout₄⟩, -⟩ := hout
  exact {
    sceneElement := chosen_getD (hkeyed _) helement hout₁
    storeRootKey := chosen_getD (hkeyed _) hrootKey hout₂
    announceLoad := ⟨_, rfl, chosen_getD (hkeyed _) hannounce hout₃⟩
    svgNamespace := chosen_getD (hkeyed _) hnamespace hout₄ }

end Sources

namespace Manager

variable {m : Manager} {s : Sources}

/-- A manager that has kept nothing decides each of the four settings by itself. It answers with
them if they pass the check, and else with a report that holds them. What else there is in the files
makes no difference. -/
theorem load_decided [Limits] (hm : m.kept = none) (h : s.Layered user project) :
    ∃ t, s.settings = .ok t ∧ Decided s.environment (outputOf user) (outputOf project) t ∧
      (t.fault? = none → (m.load s).2 = .ok ⟨m.nextMark, t⟩) ∧
      (∀ f, t.fault? = some f → f.obstacle? = none → (m.load s).2 =
        .error (.report (.config f.message [(.text "config", t.toDocument)]))) ∧
      ∀ s' user' project', s'.Layered user' project' →
        s.SameFields s' user project user' project' → (m.load s').2 = (m.load s).2 := by
  obtain ⟨t, ht, hdecided⟩ := h.decided
  refine ⟨t, ht, hdecided, fun hf => ?_, fun f hf hshown => ?_,
    fun s' user' project' h' hsame => ?_⟩
  · rw [load_fresh hm, Sources.load_of_valid ht hf]
    rfl
  · rw [load_fresh hm, Sources.load_of_fault ht hf hshown]
    rfl
  · rw [load_fresh hm, load_fresh hm, Sources.load, Sources.load, h.settings_congr h' hsame]

def announcements (environment : List (Text × Text)) : Sources :=
  ⟨⟨"user.yaml", .file "output: {announce_load: {a: 1}}\n".toList⟩,
    ⟨"project.yaml", .file "output: {announce_load: {}}\n".toList⟩, environment⟩

private theorem announcements_user (environment : List (Text × Text)) :
    (announcements environment).user.entries =
      .ok [(.text "output", .map [(.text "announce_load", .map [(.text "a", .int 1)])])] :=
  have hread : Yaml.read "output: {announce_load: {a: 1}}\n".toList =
      .ok (.map
        [(.text "output", .map [(.text "announce_load", .map [(.text "a", .int 1)])])]) := by
    decide +kernel
  File.entries_of_map? rfl hread rfl

private theorem announcements_project (environment : List (Text × Text)) :
    (announcements environment).project.entries =
      .ok [(.text "output", .map [(.text "announce_load", .map [])])] :=
  have hread : Yaml.read "output: {announce_load: {}}\n".toList =
      .ok (.map [(.text "output", .map [(.text "announce_load", .map [])])]) := by
    decide +kernel
  File.entries_of_map? rfl hread rfl

private theorem announcements_layered (environment : List (Text × Text)) :
    (announcements environment).Layered
      [(.text "output", .map [(.text "announce_load", .map [(.text "a", .int 1)])])]
      [(.text "output", .map [(.text "announce_load", .map [])])] where
  userEntries := announcements_user environment
  projectEntries := announcements_project environment
  userOutput := by
    rintro ⟨v, ⟨⟩, hmap⟩
    cases hmap
  projectOutput := by
    rintro ⟨v, ⟨⟩, hmap⟩
    cases hmap
  merged hdeep := by
    have hkeyed := File.keyed_entries (announcements_project environment)
    cases (mergeWithin_eq_error_iff hkeyed).mpr ⟨rfl, hdeep⟩
  plain := by
    rintro - v (⟨-, h⟩ | ⟨h, -⟩) <;> cases h

theorem load_announcements_decided :
    first.kept = none ∧
      (announcements [("KRAM_SCENE_ELEMENT", "k-s")]).Layered
        [(.text "output", .map [(.text "announce_load", .map [(.text "a", .int 1)])])]
        [(.text "output", .map [(.text "announce_load", .map [])])] ∧
      ∃ t, (announcements [("KRAM_SCENE_ELEMENT", "k-s")]).settings = .ok t ∧
        t.sceneElement = .text "k-s" ∧ t.storeRootKey = default.storeRootKey := by
  have hlayered := announcements_layered [("KRAM_SCENE_ELEMENT", "k-s")]
  refine ⟨rfl, hlayered, ?_⟩
  obtain ⟨t, ht, hdecided, -⟩ := load_decided (m := first) rfl hlayered
  exact ⟨t, ht, hdecided.sceneElement.eq_text rfl, hdecided.storeRootKey.eq_default rfl⟩

/-- The mapping of the project is empty and so stands for no; the user's entry makes it a yes. -/
theorem load_announcements_merged :
    (announcements []).user.entries =
        .ok [(.text "output", .map [(.text "announce_load", .map [(.text "a", .int 1)])])] ∧
      (announcements []).project.entries =
        .ok [(.text "output", .map [(.text "announce_load", .map [])])] ∧
      truth (.map []) = false ∧
      (first.load (announcements [])).2 = .ok ⟨0, default⟩ ∧
      default.announceLoad = .bool true := by
  have hsettings : (announcements []).settings = .ok default := by
    rw [Sources.settings_eq (announcements_user []) (announcements_project [])]
    rfl
  refine ⟨announcements_user [], announcements_project [], rfl, ?_, rfl⟩
  rw [load_fresh rfl, Sources.load_of_valid hsettings (by decide +kernel)]
  rfl

end Manager

end Settings

end SceneBook
