import SceneBook.Proofs.Collate.SettingsScope
import SceneBook.Proofs.Import.Acceptance

/-!
# Refused collations

Only scripts can be refused, and only for an import. What is reported is the first value that is no
import, unless a key of it is too long to be written into the report.
-/

namespace SceneBook

/-- The value is the first of the list that stands for no import. -/
def IsFirstRefused (values : List Value) (v : Value) : Prop :=
  ∃ before after, values = before ++ v :: after ∧ (∀ u ∈ before, u.IsImport) ∧ ¬ v.IsImport

namespace Workbook

/-- The numbers of the scenes have decimals that are not too long to be written, so that names and
comments can show them. -/
def HasShortNumbers (w : Workbook) : Prop := ∀ sc ∈ w.scenes, Text.isWritable sc.number = true

instance (w : Workbook) : Decidable w.HasShortNumbers :=
  inferInstanceAs (Decidable (∀ sc ∈ w.scenes, Text.isWritable sc.number = true))

/-- The imports of the workbook are values that nobody has looked at, and its scenes have numbers
that can be shown. -/
structure HasGiven (w : Workbook) (values : List Value) : Prop where
  imports : w.imports = values.map .given
  numbers : w.HasShortNumbers

end Workbook

private theorem Import.lines_given_eq_error_iff {values : List Value} {f : Failure} :
    Import.lines (values.map .given) = .error f ↔
      ∃ v, IsFirstRefused values v ∧ ImportSpec.ofValue v = .error f := by
  have hline (v : Value) : (∃ line, (Import.given v).line = .ok line) ↔ v.IsImport := by
    simp only [Import.line, map_eq_ok_iff]
    exact ⟨fun ⟨_, spec, hspec, _⟩ => ⟨spec, hspec⟩, fun ⟨spec, hspec⟩ => ⟨_, spec, hspec, rfl⟩⟩
  rw [Import.lines, List.mapM_map, mapM_eq_error_iff]
  simp only [Function.comp_apply, hline]
  constructor
  · rintro ⟨before, v, after, hsplit, hbefore, hv⟩
    have hrefused := map_eq_error_iff.mp hv
    exact ⟨v, ⟨before, after, hsplit, hbefore, Value.not_isImport_iff.mpr ⟨f, hrefused⟩⟩, hrefused⟩
  · rintro ⟨v, ⟨before, after, hsplit, hbefore, -⟩, hrefused⟩
    exact ⟨before, v, after, hsplit, hbefore, map_eq_error_iff.mpr hrefused⟩

private theorem exists_isFirstRefused_iff {values : List Value} :
    (∃ v, IsFirstRefused values v) ↔ ∃ v ∈ values, ¬ v.IsImport := by
  constructor
  · rintro ⟨v, before, after, rfl, -, hv⟩
    exact ⟨v, by simp, hv⟩
  · rintro ⟨u, hu, hrefused⟩
    obtain ⟨before, v, after, hsplit, hbefore, hv⟩ := exists_first fun hall => hrefused (hall u hu)
    exact ⟨v, before, after, hsplit, hbefore, hv⟩

namespace Registry

variable {s : Settings} {w : Workbook} {removed : List Text} {f : Failure}

theorem mem_web_withoutTags {p : Plugin} (h : p ∈ ((web s).withoutTags removed).plugins) :
    ∃ l ∈ Language.web, p = ⟨l, s⟩ :=
  mem_web (mem_withoutTags.mp h).1

theorem exists_collate_of_ne_js {l : Language} (hl : l ∈ Language.web) (hne : l ≠ Language.js)
    (s : Settings) (w : Workbook) : ∃ as, Plugin.collate ⟨l, s⟩ w = .ok as := by
  simp only [Language.web, List.mem_cons, List.not_mem_nil, or_false] at hl
  rcases hl with rfl | rfl | rfl | rfl
  · exact ⟨_, rfl⟩
  · exact ⟨_, rfl⟩
  · exact ⟨_, rfl⟩
  · exact absurd rfl hne

private theorem js_mem_plugins (hjs : Language.js.tag ∈ ((web s).withoutTags removed).tags) :
    ⟨Language.js, s⟩ ∈ ((web s).withoutTags removed).plugins := by
  obtain ⟨p, hp, htag⟩ := List.mem_map.mp hjs
  obtain ⟨l, hl, rfl⟩ := mem_web_withoutTags hp
  rwa [Language.eq_of_tag_eq hl Language.js_mem_web htag] at hp

theorem collateAll_web_eq_error_iff :
    ((web s).withoutTags removed).collateAll w = .error f ↔
      Language.js.tag ∈ ((web s).withoutTags removed).tags ∧
        Plugin.collate ⟨.js, s⟩ w = .error f := by
  rw [collateAll, mapM_eq_error_iff]
  constructor
  · rintro ⟨before, p, after, hsplit, -, hp⟩
    have hmem : p ∈ ((web s).withoutTags removed).plugins := by simp [hsplit]
    have hfails : p.collate w = .error f := map_eq_error_iff.mp hp
    obtain ⟨l, hl, rfl⟩ := mem_web_withoutTags hmem
    by_cases hjs : l = Language.js
    · subst l
      exact ⟨List.mem_map.mpr ⟨_, hmem, rfl⟩, hfails⟩
    · obtain ⟨as, has⟩ := exists_collate_of_ne_js hl hjs s w
      rw [has] at hfails
      cases hfails
  · rintro ⟨hjs, hfails⟩
    obtain ⟨before, after, hsplit⟩ := List.append_of_mem (js_mem_plugins hjs)
    refine ⟨before, _, after, hsplit, ?_, map_eq_error_iff.mpr hfails⟩
    intro p hp
    have hmem : p ∈ ((web s).withoutTags removed).plugins := by simp [hsplit, hp]
    obtain ⟨l, hl, rfl⟩ := mem_web_withoutTags hmem
    have hne : l ≠ Language.js := by
      rintro rfl
      -- A second plugin under the tag would be the same plugin twice.
      have hnodup := ((web s).withoutTags removed).tags_nodup
      rw [hsplit, List.map_append, List.map_cons] at hnodup
      exact (List.nodup_append.mp hnodup).2.2 _ (List.mem_map_of_mem hp) _ (by simp) rfl
    obtain ⟨as, has⟩ := exists_collate_of_ne_js hl hne s w
    exact ⟨_, map_eq_ok_iff.mpr ⟨as, has, rfl⟩⟩

private theorem collate_js_eq_error_iff (hs : s.fault? = none) :
    Plugin.collate ⟨.js, s⟩ w = .error f ↔ Import.lines w.imports = .error f := by
  obtain ⟨key, hkey⟩ := Settings.exists_json_rootKey hs
  change Scripting.collate w (w.extract Language.js.tag) s = .error f ↔ _
  simp only [Scripting.collate, Scripting.assemble, Scripting.parts, map_eq_error_iff, hkey]
  cases Import.lines w.imports <;> simp [bind, Except.bind]

/-- Without a report a language can only fail for an import with a key that is too long. -/
theorem collate_misuse (hs : s.fault? = none) {values : List Value}
    (hgiven : w.imports = values.map .given) {l : Language} (hl : l ∈ Language.web) {m : Misuse}
    (h : Plugin.collate ⟨l, s⟩ w = .error (.misuse m)) :
    m = .tooLong ∧ ∃ v ∈ values, v.HasLongKey := by
  by_cases hjs : l = Language.js
  · subst l
    rw [collate_js_eq_error_iff hs, hgiven, Import.lines_given_eq_error_iff] at h
    obtain ⟨v, ⟨before, after, rfl, -, -⟩, hrefused⟩ := h
    by_cases hlong : v.HasLongKey
    · rw [ImportSpec.ofValue_of_hasLongKey hlong] at hrefused
      cases hrefused
      exact ⟨rfl, v, by simp, hlong⟩
    · obtain ⟨message, hreport⟩ := ImportSpec.exists_report hlong hrefused
      cases hreport
  · obtain ⟨as, has⟩ := exists_collate_of_ne_js hl hjs s w
    rw [has] at h
    cases h

/-- A registry of web languages fails to collate a workbook exactly if scripts are registered and a
value among the imports stands for none, and it reports the first of them. Only where a key of that
value is too long to be written, no report is made. The other languages never fail. -/
theorem collateAll_fails_iff (hs : s.fault? = none) (removed : List Text) {values : List Value}
    (hw : w.HasGiven values) :
    let r := (web s).withoutTags removed
    ((∃ f, r.collateAll w = .error f) ↔ Language.js.tag ∈ r.tags ∧ ∃ v ∈ values, ¬ v.IsImport) ∧
    (∀ f, r.collateAll w = .error f → ∃ v, IsFirstRefused values v ∧
      (¬ v.HasLongKey → ∃ message, f = .report (.importSpec message v)) ∧
      (v.HasLongKey → f = .misuse .tooLong)) ∧
    ∀ l ∈ Language.web, l ≠ Language.js → ∀ w' : Workbook, w'.HasShortNumbers →
      ∃ as, Plugin.collate ⟨l, s⟩ w' = .ok as := by
  intro r
  have hfails (f : Failure) : r.collateAll w = .error f ↔
      Language.js.tag ∈ r.tags ∧
        ∃ v, IsFirstRefused values v ∧ ImportSpec.ofValue v = .error f := by
    rw [collateAll_web_eq_error_iff, collate_js_eq_error_iff hs, hw.imports,
      Import.lines_given_eq_error_iff]
  refine ⟨?_, ?_, fun l hl hne w' _ => exists_collate_of_ne_js hl hne s w'⟩
  · rw [← exists_isFirstRefused_iff]
    constructor
    · rintro ⟨f, hf⟩
      obtain ⟨hjs, v, hv, -⟩ := (hfails f).mp hf
      exact ⟨hjs, v, hv⟩
    · rintro ⟨hjs, v, hv⟩
      obtain ⟨before, after, -, -, hrefused⟩ := id hv
      obtain ⟨f, hf⟩ := Value.not_isImport_iff.mp hrefused
      exact ⟨f, (hfails f).mpr ⟨hjs, v, hv, hf⟩⟩
  · intro f hf
    obtain ⟨-, v, hv, hrefused⟩ := (hfails f).mp hf
    refine ⟨v, hv, fun hshort => ImportSpec.exists_report hshort hrefused, fun hlong => ?_⟩
    rw [ImportSpec.ofValue_of_hasLongKey hlong] at hrefused
    exact (Except.error.inj hrefused).symm

/-- An import, a mapping without a source, and a number in the place of an import. -/
def mixedImports : List Value :=
  [.map [(.text "from", .text "a")], .map [(.text "as", .text "b")], .int 5]

/-- A workbook with a scene before the first one. -/
def mixedBook : Workbook :=
  ⟨"mixed", [⟨-1, [⟨"html", "<p>", [], none⟩]⟩], mixedImports.map .given⟩

theorem collateAll_fails_iff_mixed :
    let r := (web default).withoutTags ["css"]
    let v : Value := .map [(.text "as", .text "b")]
    (default : Settings).fault? = none ∧ mixedBook.HasGiven mixedImports ∧
    IsFirstRefused mixedImports v ∧ r.collateAll mixedBook = .error (.report
      (.importSpec "Import specification requires a non-empty 'from'" v)) ∧
    ∃ as, Plugin.collate ⟨.html, default⟩ mixedBook = .ok as := by
  intro r v
  have hs : (default : Settings).fault? = none := by decide
  have hw : mixedBook.HasGiven mixedImports := ⟨rfl, by decide +kernel⟩
  have hfails : r.collateAll mixedBook = .error (.report
      (.importSpec "Import specification requires a non-empty 'from'" v)) := rfl
  obtain ⟨-, hfirst, hothers⟩ := collateAll_fails_iff hs ["css"] hw
  obtain ⟨u, hu, hreport, hlong⟩ := hfirst _ hfails
  have hshort : ¬ u.HasLongKey := fun h => Failure.noConfusion (hlong h)
  obtain ⟨message, hmessage⟩ := hreport hshort
  cases hmessage
  exact ⟨hs, hw, hu, hfails, hothers .html Language.html_mem_web
    (Language.ne_of_tag_ne (by decide)) mixedBook hw.numbers⟩

/-- A mapping with a key of one digit more than are written. -/
def longKeyImport : Value := .map [(.int (Nat.pow 10 4300), .null)]

theorem longKey_unreported :
    let w : Workbook := ⟨"main", [], [.given longKeyImport]⟩
    IsFirstRefused [longKeyImport] longKeyImport ∧
    (web default).collateAll w = .error (.misuse .tooLong) ∧
    ¬ ∃ message, (web default).collateAll w =
      .error (.report (.importSpec message longKeyImport)) := by
  intro w
  have hlong : longKeyImport.HasLongKey :=
    ⟨_, rfl, .int (Nat.pow 10 4300), List.mem_cons_self, by decide +kernel⟩
  have hrefused := ImportSpec.ofValue_of_hasLongKey hlong
  have hfirst : IsFirstRefused [longKeyImport] longKeyImport :=
    ⟨[], [], rfl, by simp, Value.not_isImport_iff.mpr ⟨_, hrefused⟩⟩
  have hfails : (web default).collateAll w = .error (.misuse .tooLong) := by
    change ((web default).withoutTags []).collateAll w = _
    apply collateAll_web_eq_error_iff.mpr
    refine ⟨by decide, (collate_js_eq_error_iff (by decide)).mpr ?_⟩
    exact Import.lines_given_eq_error_iff.mpr ⟨_, hfirst, hrefused⟩
  refine ⟨hfirst, hfails, ?_⟩
  rintro ⟨message, hreport⟩
  rw [hfails] at hreport
  cases hreport

end Registry

end SceneBook
