import SceneBook.Proofs.Collate.SettingsScope
import SceneBook.Proofs.Settings.Precedence
import SceneBook.Proofs.Yaml.Written
import Mathlib.Data.List.Permutation

/-!
# Saved settings

Saved settings stand in the file of the project, which gives all four of them. None of them is a
mapping, so none is merged with what the user's file has in the same place: a manager that has kept
nothing loads the saved settings again, whatever the user's file holds.
-/

namespace SceneBook

private theorem Double.isZero_iff_of_toInt? {d : Double} {i : Int} (h : d.toInt? = some i) :
    d.isZero = true ↔ i = 0 := by
  unfold toInt? at h
  unfold isZero
  cases hmagnitude : d.magnitude with
  | notANumber | infinite =>
    rw [hmagnitude] at h
    cases h
  | finite m q =>
    rw [hmagnitude] at h
    obtain ⟨n, hn, hi⟩ := Option.map_eq_some_iff.mp h
    obtain ⟨size, hsize, hint⟩ := Option.bind_eq_some_iff.mp hn
    cases hint
    have hpow (k : Nat) : 0 < Nat.pow 2 k := Nat.two_pow_pos k
    have hm : size = 0 ↔ m = 0 := by
      split at hsize
      · cases hsize
        rw [Nat.mul_eq_zero]
        exact or_iff_left (hpow _).ne'
      · split at hsize
        · next hdvd =>
          cases hsize
          obtain ⟨k, rfl⟩ := Nat.dvd_of_mod_eq_zero hdvd
          rw [Nat.mul_div_cancel_left k (hpow _), Nat.mul_eq_zero]
          exact (or_iff_right (hpow _).ne').symm
        · cases hsize
    have hzero : i = 0 ↔ m = 0 := by
      rw [← hm, ← hi]
      split <;> omega
    rw [hzero]
    cases m <;> simp

namespace Scalar

variable {a b : Scalar}

private theorem canon_eq_of_same (h : a.same b) (hb : ∀ i, b ≠ .instant i) : a.canon = b.canon := by
  rw [same_comm, same_eq_canon hb, decide_eq_true_iff] at h
  exact h.symm

private theorem eq_text_of_same {t : Text} (h : a.same (.text t)) : a = .text t := by
  have hcanon : a.canon = .text t := canon_eq_of_same h nofun
  cases a with
  | float d =>
    rw [canon] at hcanon
    split at hcanon <;> cases hcanon
  | text u => exact hcanon
  | _ => cases hcanon

private theorem truth_of_same_bool {yes : Bool} (h : a.same (.bool yes)) :
    a.isTruthy = yes ∧ ∀ t, a ≠ .text t := by
  have hcanon : a.canon = .int (if yes then 1 else 0) := canon_eq_of_same h nofun
  have htext (t : Text) : a ≠ .text t := by
    rintro rfl
    cases hcanon
  refine ⟨?_, htext⟩
  cases a with
  | bool other => cases yes <;> cases other <;> cases hcanon <;> rfl
  | int i => cases yes <;> cases hcanon <;> rfl
  | float d =>
    rw [canon] at hcanon
    split at hcanon
    · next i hi =>
      have hzero := Double.isZero_iff_of_toInt? hi
      cases yes <;> cases hcanon <;> simpa [isTruthy] using hzero
    · cases hcanon
  | _ => cases hcanon

end Scalar

namespace Value

/-- Values that cannot be told apart by comparing them: scalars that are the same key, lists of
items that are equal one by one, and mappings with equal values under the same keys in any order. -/
inductive Equal : Value → Value → Prop
  | refl (v : Value) : Equal v v
  | scalar {a b : Scalar} (h : a.same b) : Equal (.scalar a) (.scalar b)
  | list {v w : Value} {vs ws : List Value} (hv : v.list? = some vs) (hw : w.list? = some ws)
    (h : List.Forall₂ Equal vs ws) : Equal v w
  | map {v w : Value} {es fs : Entries Value} (hv : v.map? = some es) (hw : w.map? = some fs)
    (h : ∀ k, Option.Rel Equal (es.find? k) (fs.find? k)) : Equal v w

namespace Equal

variable {v w : Value} {fs : Entries Value}

private theorem eq_text {t : Text} (h : v.Equal (.text t)) : v = .text t := by
  cases h with
  | refl => rfl
  | scalar h => rw [Scalar.eq_text_of_same h]
  | list _ hw => cases hw
  | map _ hw => cases hw

private theorem text_eq {t : Text} (h : (Value.text t).Equal w) : w = .text t := by
  cases h with
  | refl => rfl
  | scalar h =>
    rw [Scalar.same_comm] at h
    rw [Scalar.eq_text_of_same h]
  | list hv => cases hv
  | map hv => cases hv

private theorem truth_eq {b : Bool} (h : v.Equal (.bool b)) : Settings.truth v = b := by
  cases h with
  | refl => rfl
  | scalar h =>
    obtain ⟨htruthy, htext⟩ := Scalar.truth_of_same_bool h
    rename_i a
    cases a with
    | text t => exact absurd rfl (htext t)
    | _ => exact htruthy
  | list _ hw => cases hw
  | map _ hw => cases hw

private theorem map?_eq_none {s : Scalar} (h : v.Equal (.scalar s)) : v.map? = none := by
  cases h with
  | refl | scalar => rfl
  | list _ hw => cases hw
  | map _ hw => cases hw

private theorem rel_refl (v? : Option Value) : Option.Rel Equal v? v? := by
  cases v? with
  | none => exact .none
  | some v => exact .some (.refl v)

private theorem of_perm {es : Entries Value} (h : es.Perm fs) (hfs : fs.Distinct) :
    (Value.map es).Equal (.map fs) := by
  refine .map rfl rfl fun k => ?_
  rw [Entries.find?_perm h hfs]
  exact rel_refl _

private theorem singleton (h : v.Equal w) (k : Scalar) :
    (Value.map [(k, v)]).Equal (.map [(k, w)]) := by
  refine .map rfl rfl fun k' => ?_
  simp only [Entries.find?]
  split
  · exact .some h
  · exact .none

private theorem exists_map? (h : v.Equal w) (hw : w.map? = some fs) :
    ∃ es, v.map? = some es ∧ ∀ k, Option.Rel Equal (es.find? k) (fs.find? k) := by
  cases h with
  | refl => exact ⟨fs, hw, fun _ => rel_refl _⟩
  | scalar => cases hw
  | list _ hlist =>
    unfold map? at hw
    unfold list? at hlist
    split at hw
    · next hopened =>
      rw [hopened] at hlist
      cases hlist
    · cases hw
  | map hv hw' h =>
    cases hw.symm.trans hw'
    exact ⟨_, hv, h⟩

end Equal

private theorem exists_equal_of_rel {v? : Option Value} {w : Value}
    (h : Option.Rel Equal v? (some w)) :
    ∃ v, v? = some v ∧ v.Equal w := by
  cases h with
  | some h => exact ⟨_, rfl, h⟩

end Value

/-- What is written for the value is read as an equal value. -/
def Yaml.ReadsBack (v : Value) : Prop :=
  ∀ content, Text.ofChars content = write v → ∃ w, read content = .ok w ∧ w.Equal v

namespace Settings

variable {user project out : Entries Value}

private theorem not_nested_of_flat [Limits]
    (h : ∀ k k' vs v, (project.find? k).bind Value.map? = some vs → vs.find? k' = some v →
      v.map? = none) : ¬ Nested Limits.merge user project := by
  obtain ⟨depth, hdepth⟩ := Nat.exists_eq_add_of_le' Limits.two_le_merge
  rw [hdepth]
  rintro ⟨k, bs, vs, -, hvs, k', bs', vs', -, hvs', -⟩
  obtain ⟨v, hv, hmap⟩ := Option.bind_eq_some_iff.mp hvs'
  cases (h k k' vs v hvs hv).symm.trans hmap

namespace Sources

variable {s : Sources}

private theorem exists_settings_of_project [Limits] (hu : s.user.entries = .ok user)
    (hp : s.project.entries = .ok project) (hunset : ¬ AnySet s.environment fieldVariables)
    (hmerged : ¬ Nested Limits.merge user project)
    (hout : (project.field? "output").bind Value.map? = some out) :
    ∃ rs, s.settings = .ok (ofOutput rs) ∧ ∀ field v, out.field? field = some v →
      ∃ r, rs.field? field = some r ∧ (r.map? = none ∨ v.map? = none → r = v) := by
  have hproject := File.keyed_entries hp
  obtain ⟨es, hes⟩ : ∃ es, layer user project = .ok es := exists_mergeWithin hproject hmerged
  obtain ⟨output, houtput, hmap⟩ := Option.bind_eq_some_iff.mp hout
  have hkey := output_merged hp hes
  rw [houtput] at hkey
  obtain ⟨r, hr, hesr⟩ := map_eq_ok_iff.mp hkey
  obtain ⟨rs, hrs, hfields⟩ : ∃ rs, r.map? = some rs ∧ ∀ field v, out.field? field = some v →
      ∃ r, rs.field? field = some r ∧ (r.map? = none ∨ v.map? = none → r = v) := by
    rcases overlay_eq_ok hr with ⟨-, rfl⟩ | ⟨bs, vs, rs, -, hvs, hrs, rfl⟩
    · exact ⟨out, hmap, fun _ v hv => ⟨v, hv, fun _ => rfl⟩⟩
    · cases hmap.symm.trans hvs
      refine ⟨rs, rfl, fun field v hv => ?_⟩
      have hkeyed : (Value.map out).Keyed := (hproject.find? houtput).map? hmap
      rw [merge_pred_eq_succ] at hrs
      have hfield : overlayAt (mergeWithin (Limits.merge - 2)) (bs.field? field)
          (out.field? field) = .ok (rs.field? field) :=
        find?_overlayEach hkeyed.distinct hrs (.text field)
      rw [hv] at hfield
      obtain ⟨r, hr, hrs⟩ := map_eq_ok_iff.mp hfield
      refine ⟨r, hrs.symm, fun hnot => ?_⟩
      rcases overlay_eq_ok hr with ⟨-, rfl⟩ | ⟨_, _, _, -, hv, -, rfl⟩
      · rfl
      · rw [hv] at hnot
        rcases hnot with hnone | hnone <;> cases hnone
  refine ⟨rs, ?_, hfields⟩
  have hplaced : ¬ Misplaced (es.field? "output") := by
    rintro ⟨v, hv, hnone⟩
    cases hesr.trans hv
    cases hnone.symm.trans hrs
  have hentries : outputEntries es = .ok rs := by
    rw [outputEntries_placed hplaced, outputOf, ← hesr, Option.bind_some, hrs, Option.getD_some]
  rw [settings_eq hu hp]
  simp only [hes, bind, Except.bind, applyVariables_unset hunset]
  change ((outputEntries es).map ofOutput).mapError Failure.misuse = _
  rw [hentries]
  rfl

def withProject (s : Sources) (content : List Char) : Sources :=
  { s with project := ⟨s.project.path, .file content⟩ }

end Sources

variable {t : Settings} {yes : Bool}

private theorem exists_texts (ht : t.fault? = none) :
    ∃ element rootKey uri, t.sceneElement = .text element ∧ t.storeRootKey = .text rootKey ∧
      t.svgNamespace = .text uri := by
  obtain ⟨helement, hrootKey, huri⟩ := fault?_eq_none_iff.mp ht
  obtain ⟨element, helement, -⟩ := (Option.any_eq_true _ _).mp helement
  obtain ⟨rootKey, hrootKey, -⟩ := (Option.any_eq_true _ _).mp hrootKey
  obtain ⟨uri, huri, -⟩ := (Option.any_eq_true _ _).mp huri
  exact ⟨element, rootKey, uri, Value.text?_eq_some_iff.mp helement,
    Value.text?_eq_some_iff.mp hrootKey, Value.text?_eq_some_iff.mp huri⟩

private theorem exists_scalar_of_field (ht : t.fault? = none) (hyes : t.announceLoad = .bool yes)
    {k : Scalar} {v : Value} (hv : t.toEntries.find? k = some v) : ∃ a, v = .scalar a := by
  obtain ⟨element, rootKey, uri, helement, hrootKey, huri⟩ := exists_texts ht
  have hmem := Entries.mem_of_find? hv
  simp only [toEntries, helement, hrootKey, hyes, huri, List.map_cons, List.map_nil,
    List.mem_cons, List.not_mem_nil, or_false] at hmem
  rcases hmem with rfl | rfl | rfl | rfl <;> exact ⟨_, rfl⟩

private theorem ofOutput_of_fields {rs : Entries Value} (ht : t.fault? = none)
    (hyes : t.announceLoad = .bool yes) (h : ∀ field v, t.toEntries.field? field = some v →
      ∃ r, rs.field? field = some r ∧ r.Equal v) : ofOutput rs = t := by
  obtain ⟨element, rootKey, uri, helement, hrootKey, huri⟩ := exists_texts ht
  obtain ⟨_, hr₁, hequal₁⟩ := h "scene_element" t.sceneElement rfl
  obtain ⟨_, hr₂, hequal₂⟩ := h "store_root_key" t.storeRootKey rfl
  obtain ⟨announced, hr₃, hequal₃⟩ := h "announce_load" t.announceLoad rfl
  obtain ⟨_, hr₄, hequal₄⟩ := h "svg_namespace" t.svgNamespace rfl
  rw [helement] at hequal₁
  rw [hrootKey] at hequal₂
  rw [hyes] at hequal₃
  rw [huri] at hequal₄
  cases hequal₁.eq_text
  cases hequal₂.eq_text
  cases hequal₄.eq_text
  simp only [ofOutput, ofEntries, hr₁, hr₂, hr₃, hr₄, Option.getD_some, hequal₃.truth_eq]
  rw [← helement, ← hrootKey, ← hyes, ← huri]

/-- The entries are what settings are saved as: a mapping with equal values in the fields under
`output`, and nothing else. -/
structure SavedAs (t : Settings) (project out : Entries Value) : Prop where
  output : (project.field? "output").bind Value.map? = some out
  fields : ∀ k, Option.Rel Value.Equal (out.find? k) (t.toEntries.find? k)
  alone : ∀ k v, project.find? k = some v → (Scalar.text "output").same k

private theorem exists_savedAs {v : Value} (h : v.Equal t.toDocument) :
    ∃ project out, v.map? = some project ∧ t.SavedAs project out := by
  obtain ⟨project, hproject, hkeys⟩ := h.exists_map? rfl
  obtain ⟨output, houtput, hequal⟩ := Value.exists_equal_of_rel (hkeys (.text "output"))
  obtain ⟨out, hout, hfields⟩ := hequal.exists_map? rfl
  refine ⟨project, out, hproject, ⟨?_, hfields, fun k v hv => ?_⟩⟩
  · rw [Entries.field?, houtput]
    exact hout
  · by_contra hother
    have hkey := hkeys k
    rw [hv, Entries.find?, if_neg hother] at hkey
    cases hkey

/-- What is written for settings can be stored, and with it in the file of the project its entries
are what they are saved as. -/
theorem exists_content (hreads : Yaml.ReadsBack t.toDocument) (s : Sources) :
    ∃ content project out, Text.ofChars content = Yaml.write t.toDocument ∧
      (s.withProject content).project.entries = .ok project ∧ t.SavedAs project out := by
  obtain ⟨content, hcontent⟩ := Text.exists_ofChars (Yaml.isStorable_write t.toDocument)
  obtain ⟨v, hread, hequal⟩ := hreads content hcontent
  obtain ⟨project, out, hmap, hsaved⟩ := exists_savedAs hequal
  exact ⟨content, project, out, hcontent, File.entries_of_map? rfl hread hmap, hsaved⟩

namespace SavedAs

variable {s : Sources}

private theorem map?_eq_none (h : t.SavedAs project out) (ht : t.fault? = none)
    (hyes : t.announceLoad = .bool yes) {k : Scalar} {v : Value} (hv : out.find? k = some v) :
    v.map? = none := by
  have hfield := h.fields k
  rw [hv] at hfield
  cases hsaved : t.toEntries.find? k with
  | none =>
    rw [hsaved] at hfield
    cases hfield
  | some w =>
    obtain ⟨a, rfl⟩ := exists_scalar_of_field ht hyes hsaved
    rw [hsaved] at hfield
    cases hfield with
    | some hequal => exact hequal.map?_eq_none

private theorem not_nested [Limits] (h : t.SavedAs project out) (ht : t.fault? = none)
    (hyes : t.announceLoad = .bool yes) : ¬ Nested Limits.merge user project := by
  refine not_nested_of_flat fun k k' vs v hvs hv => ?_
  obtain ⟨output, houtput, hmap⟩ := Option.bind_eq_some_iff.mp hvs
  have hout := h.output
  rw [Entries.field?, Entries.find?_congr (h.alone k output houtput), hvs] at hout
  cases hout
  exact h.map?_eq_none ht hyes hv

/-- Each field comes to what is saved in it, unless there are mappings to merge. -/
theorem exists_settings [Limits] (h : t.SavedAs project out) (hu : s.user.entries = .ok user)
    (hp : s.project.entries = .ok project) (hunset : ¬ AnySet s.environment fieldVariables)
    (hmerged : ¬ Nested Limits.merge user project) :
    ∃ rs, s.settings = .ok (ofOutput rs) ∧ ∀ field v, t.toEntries.field? field = some v →
      ∃ u r, out.field? field = some u ∧ u.Equal v ∧ rs.field? field = some r ∧
        (r.map? = none ∨ u.map? = none → r = u) := by
  obtain ⟨rs, hrs, hfound⟩ :=
    Sources.exists_settings_of_project hu hp hunset hmerged h.output
  refine ⟨rs, hrs, fun field v hv => ?_⟩
  have hfield : Option.Rel Value.Equal (out.field? field) (t.toEntries.field? field) :=
    h.fields (.text field)
  rw [hv] at hfield
  obtain ⟨u, hu, hequal⟩ := Value.exists_equal_of_rel hfield
  obtain ⟨r, hr, hsame⟩ := hfound field u hu
  exact ⟨u, r, hu, hequal, hr, hsame⟩

/-- Where the project's file gives what valid settings are saved as, these are the settings. -/
theorem settings_eq [Limits] (h : t.SavedAs project out) (hu : s.user.entries = .ok user)
    (hp : s.project.entries = .ok project) (hunset : ¬ AnySet s.environment fieldVariables)
    (ht : t.fault? = none) (hyes : t.announceLoad = .bool yes) : s.settings = .ok t := by
  obtain ⟨rs, hrs, hfields⟩ := h.exists_settings hu hp hunset (h.not_nested ht hyes)
  rw [hrs, ofOutput_of_fields ht hyes fun field v hv => ?_]
  obtain ⟨u, r, hu, hequal, hr, hsame⟩ := hfields field v hv
  exact ⟨r, hr, hsame (.inr (h.map?_eq_none ht hyes hu)) ▸ hequal⟩

/-- Only what valid settings are saved as can be loaded: what passes its check is a text, and then
it is the very text that is saved. -/
theorem fault?_of_load [Limits] (h : t.SavedAs project out) (hu : s.user.entries = .ok user)
    (hp : s.project.entries = .ok project) (hunset : ¬ AnySet s.environment fieldVariables)
    {t' : Settings} (hload : s.load = .ok t') : t.fault? = none := by
  have hmerged : ¬ Nested Limits.merge user project := by
    intro hdeep
    cases hload.symm.trans ((Sources.Escapes.tooDeep hdeep).load hu hp)
  obtain ⟨rs, hrs, hfields⟩ := h.exists_settings hu hp hunset hmerged
  have hvalid : (ofOutput rs).fault? = none := by
    cases hf : (ofOutput rs).fault? with
    | none => rfl
    | some f =>
      cases hshown : f.obstacle? with
      | none => cases hload.symm.trans (Sources.load_of_fault hrs hf hshown)
      | some e => cases hload.symm.trans (Sources.load_of_obstacle hrs hf hshown)
  have hfield {field : Text} {v default : Value} {ok : Text → Bool}
      (hv : t.toEntries.field? field = some v)
      (hok : ((rs.field? field).getD default).text?.any ok = true) : v.text?.any ok = true := by
    obtain ⟨u, r, -, hequal, hr, hsame⟩ := hfields field v hv
    obtain ⟨e, he, hok⟩ := (Option.any_eq_true _ _).mp hok
    rw [hr, Option.getD_some, Value.text?_eq_some_iff] at he
    subst he
    rw [← hsame (.inl rfl)] at hequal
    rw [hequal.text_eq]
    exact hok
  obtain ⟨helement, hrootKey, huri⟩ := fault?_eq_none_iff.mp hvalid
  exact fault?_eq_none_iff.mpr ⟨hfield rfl helement, hfield rfl hrootKey, hfield rfl huri⟩

end SavedAs

private theorem distinct_toEntries (t : Settings) : t.toEntries.Distinct := by
  have hnames : (fieldNames.map Scalar.text).Pairwise fun a b => a.same b = false := by
    decide +kernel
  exact hnames

namespace Manager

variable {m fresh : Manager} {s : Sources}

/-- Valid settings whose announcement is yes or no can be stored as a text, and a manager that has
kept nothing loads the very same settings from it: whatever the user's file holds, whatever was in
the file of the project before, and whatever this manager did before. It is taken for granted that
the text reads back as a value that is equal to the one written. -/
theorem load_saved [Limits] (hreads : Yaml.ReadsBack t.toDocument) (ht : t.fault? = none)
    (hyes : t.announceLoad = .bool yes) (hu : s.user.entries = .ok user)
    (hunset : ¬ AnySet s.environment fieldVariables) (hfresh : fresh.kept = none) :
    ∃ content, Text.ofChars content = (m.save t).2 ∧
      (fresh.load (s.withProject content)).2 = .ok ⟨fresh.nextMark, t⟩ := by
  obtain ⟨content, project, out, hcontent, hp, hsaved⟩ := exists_content hreads s
  have hsettings : (s.withProject content).settings = .ok t :=
    hsaved.settings_eq hu hp hunset ht hyes
  refine ⟨content, hcontent, ?_⟩
  rw [load_fresh hfresh, Sources.load_of_valid hsettings ht]
  rfl

/-- Settings of which two would read back as something else without quotes. -/
def quoted : Settings := ⟨.text "k-s", .text "yes", .bool false, .text "a: #b"⟩

def quotedFile : List Char :=
  ("output:\n  announce_load: false\n  scene_element: k-s\n  store_root_key: 'yes'\n" ++
    "  svg_namespace: 'a: #b'\n").toList

def quotedGraph : Yaml.Graph where
  nodes := #[⟨.mapping, .mapping [(1, 2)]⟩, ⟨.text, .scalar "output"⟩,
    ⟨.mapping, .mapping [(3, 4), (5, 6), (7, 8), (9, 10)]⟩,
    ⟨.text, .scalar "announce_load"⟩, ⟨.bool, .scalar "false"⟩,
    ⟨.text, .scalar "scene_element"⟩, ⟨.text, .scalar "k-s"⟩,
    ⟨.text, .scalar "store_root_key"⟩, ⟨.text, .scalar "yes"⟩,
    ⟨.text, .scalar "svg_namespace"⟩, ⟨.text, .scalar "a: #b"⟩]

def quotedEntries : Entries Value :=
  [(.text "announce_load", .bool false), (.text "scene_element", .text "k-s"),
    (.text "store_root_key", .text "yes"), (.text "svg_namespace", .text "a: #b")]

private theorem write_quoted : Yaml.write quoted.toDocument = Text.ofChars quotedFile := by
  have hsorted : Yaml.sorted quoted.toDocument = .map [(.text "output", .map quotedEntries)] := by
    unfold quoted
    cbv
  unfold Yaml.write
  rw [hsorted]
  decide +kernel

private theorem read_quotedFile :
    Yaml.read quotedFile = .ok (.map [(.text "output", .map quotedEntries)]) := by
  have hfeeds : Yaml.lineFeeds quotedFile = quotedFile := by decide +kernel
  have hallowed : (quotedFile.findIdx? fun c => !Yaml.isAllowed c) = none := by decide +kernel
  have hgraph : Yaml.graph quotedFile = .ok (quotedGraph, 0) := by decide +kernel
  have hvalue : quotedGraph.value 0 = .ok (.map [(.text "output", .map quotedEntries)]) := by
    decide +kernel
  unfold Yaml.read
  simp only [hfeeds, hallowed, hgraph, bind, Except.bind]
  exact hvalue

private theorem readsBack_quoted : Yaml.ReadsBack quoted.toDocument := by
  intro content hcontent
  rw [write_quoted] at hcontent
  have hsame : content = quotedFile := Text.ofChars_injective hcontent
  refine ⟨_, hsame ▸ read_quotedFile, ?_⟩
  have hentries : (Value.map quotedEntries).Equal (.map quoted.toEntries) :=
    .of_perm (@List.perm_middle _ _ (quoted.toEntries.take 2) (quoted.toEntries.drop 3)).symm
      (distinct_toEntries quoted)
  exact hentries.singleton _

def numberOutput : Sources :=
  ⟨⟨"user.yaml", .file "output: 5\n".toList⟩, ⟨"project.yaml", .missing⟩, []⟩

theorem load_saved_quoted :
    Yaml.ReadsBack quoted.toDocument ∧ quoted.fault? = none ∧ quoted.announceLoad = .bool false ∧
      numberOutput.user.entries = .ok [(.text "output", .int 5)] ∧
      ¬ AnySet numberOutput.environment fieldVariables ∧ (first.save quoted).1.another.kept = none ∧
      ∃ content, Text.ofChars content = (first.save quoted).2 ∧
        ((first.save quoted).1.another.load (numberOutput.withProject content)).2 =
          .ok ⟨1, quoted⟩ := by
  have hvalid : quoted.fault? = none := by decide +kernel
  have hread : Yaml.read "output: 5\n".toList = .ok (.map [(.text "output", .int 5)]) := by
    decide +kernel
  have huser : numberOutput.user.entries = .ok [(.text "output", .int 5)] :=
    File.entries_of_map? rfl hread rfl
  have hunset : ¬ AnySet numberOutput.environment fieldVariables := by
    rintro ⟨p, -, hset⟩
    exact hset rfl
  exact ⟨readsBack_quoted, hvalid, rfl, huser, hunset, rfl,
    load_saved readsBack_quoted hvalid rfl huser hunset rfl⟩

end Manager

end Settings

end SceneBook
