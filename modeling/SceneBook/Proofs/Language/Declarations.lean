import SceneBook.Language.Web
import SceneBook.Proofs.Language.Rows
import SceneBook.Proofs.Text.Runs

/-!
# Declarations

A script fragment is a definition when it begins with a declaration: a keyword, blanks and a name,
which nothing cuts short. A text is a declaration in one way at most, so that the order of the
keywords in the table does not matter.
-/

namespace SceneBook

open CodePoint (isBlank isWord)

/-- A text in the parts that a declaration has. -/
structure Declaration where
  lead : Text
  keyword : Text
  gap : Text
  name : Text
  rest : Text

/-- The keywords that declare a name in a script, each with the subtype of what it declares. -/
def declarationKeywords : List (Text × Text) := [
  ("function", "function"), ("const", "constant"), ("let", "variable"), ("var", "variable")]

namespace Declaration

def text (d : Declaration) : Text := d.lead ++ (d.keyword ++ (d.gap ++ (d.name ++ d.rest)))

def capture (d : Declaration) : Capture := ⟨d.lead ++ d.keyword ++ d.gap ++ d.name, d.name⟩

/-- The keyword aside, the parts are what they should be, and the name is not cut short. -/
structure WellFormed (d : Declaration) : Prop where
  lead : ∀ c ∈ d.lead, c.isBlank
  gap_ne : d.gap ≠ []
  gap : ∀ c ∈ d.gap, c.isBlank
  name_ne : d.name ≠ []
  name : ∀ c ∈ d.name, c.isWord
  rest : Text.Stops isWord d.rest

structure Declares (d : Declaration) (subtype : Text) : Prop extends WellFormed d where
  keyword : (d.keyword, subtype) ∈ declarationKeywords

def cut (code : Text) : Declaration :=
  let afterLead := code.dropWhile isBlank
  let afterKeyword := afterLead.dropWhile isWord
  let afterGap := afterKeyword.dropWhile isBlank
  ⟨code.takeWhile isBlank, afterLead.takeWhile isWord, afterKeyword.takeWhile isBlank,
    afterGap.takeWhile isWord, afterGap.dropWhile isWord⟩

variable {d : Declaration} {code word : Text}

theorem stops_gap (hne : d.gap ≠ []) (hgap : ∀ c ∈ d.gap, c.isBlank) :
    Text.Stops isWord (d.gap ++ (d.name ++ d.rest)) :=
  (Text.stops_append hne).mpr
    (Text.stops_of_forall fun c hc => CodePoint.isWord_of_isBlank (hgap c hc))

theorem not_isBlank_of_isWord {c : CodePoint} (h : c.isWord) : c.isBlank = false := by
  by_contra hblank
  rw [CodePoint.isWord_of_isBlank ((Bool.not_eq_false _).mp hblank)] at h
  cases h

private theorem WellFormed.stops_name (hd : d.WellFormed) : Text.Stops isBlank (d.name ++ d.rest) :=
  (Text.stops_append hd.name_ne).mpr
    (Text.stops_of_forall fun c hc => not_isBlank_of_isWord (hd.name c hc))

theorem stops_keyword (hne : d.keyword ≠ []) (hblank : Text.Stops isBlank d.keyword) :
    Text.Stops isBlank (d.keyword ++ (d.gap ++ (d.name ++ d.rest))) :=
  (Text.stops_append hne).mpr hblank

/-- A declaration is where its text says, whatever its keyword is. -/
theorem WellFormed.eq_cut (hd : d.WellFormed) (hne : d.keyword ≠ [])
    (hword : ∀ c ∈ d.keyword, c.isWord) : d = cut d.text := by
  have hblank : Text.Stops isBlank d.keyword :=
    Text.stops_of_forall fun c hc => not_isBlank_of_isWord (hword c hc)
  have hlead := stops_keyword hne hblank
  have hafter := stops_gap hd.gap_ne hd.gap
  simp only [cut, text, Text.takeWhile_run hd.lead hlead, Text.dropWhile_run hd.lead hlead,
    Text.takeWhile_run hword hafter, Text.dropWhile_run hword hafter,
    Text.takeWhile_run hd.gap hd.stops_name, Text.dropWhile_run hd.gap hd.stops_name,
    Text.takeWhile_run hd.name hd.rest, Text.dropWhile_run hd.name hd.rest]

private theorem readKeyword_eq_some_iff {c : Capture} (hne : word ≠ [])
    (hword : Text.Stops isBlank word) :
    Opening.readKeyword word code = some c ↔
      ∃ d : Declaration, d.WellFormed ∧ d.keyword = word ∧ d.text = code ∧ d.capture = c := by
  constructor
  · intro h
    obtain ⟨rest, hrest, h⟩ := Option.bind_eq_some_iff.mp h
    simp only [Option.ite_none_left_eq_some, Option.some.injEq, Bool.or_eq_true,
      List.isEmpty_iff, not_or] at h
    obtain ⟨⟨hgap, hname⟩, hcapture⟩ := h
    refine ⟨⟨code.takeWhile isBlank, word, rest.takeWhile isBlank,
      (rest.dropWhile isBlank).takeWhile isWord, (rest.dropWhile isBlank).dropWhile isWord⟩,
      ⟨fun _ => List.mem_takeWhile_imp, hgap, fun _ => List.mem_takeWhile_imp, hname,
        fun _ => List.mem_takeWhile_imp, Text.stops_dropWhile _ _⟩, rfl, ?_, hcapture⟩
    simp only [text, List.takeWhile_append_dropWhile]
    rw [← Text.dropPrefix?_eq_some_iff.mp hrest, List.takeWhile_append_dropWhile]
  · rintro ⟨d, hd, rfl, rfl, rfl⟩
    have hlead := stops_keyword hne hword
    have hrest : Text.dropPrefix? d.keyword (d.text.dropWhile isBlank) =
        some (d.gap ++ (d.name ++ d.rest)) := by
      rw [text, Text.dropWhile_run hd.lead hlead]
      exact Text.dropPrefix?_eq_some_iff.mpr rfl
    refine Option.bind_eq_some_iff.mpr ⟨_, hrest, ?_⟩
    simp only [text, Text.takeWhile_run hd.lead hlead, Text.takeWhile_run hd.gap hd.stops_name,
      Text.dropWhile_run hd.gap hd.stops_name, Text.takeWhile_run hd.name hd.rest]
    simp [hd.gap_ne, hd.name_ne, capture]

private theorem rows_js :
    Language.js.rows = declarationKeywords.map fun k => Language.keywordRow k.1 k.2 := rfl

theorem keyword_ne_nil : ∀ k ∈ declarationKeywords, k.1 ≠ [] := by decide

theorem keyword_isWord : ∀ k ∈ declarationKeywords, ∀ c ∈ k.1, c.isWord := by decide +kernel

theorem keyword_unique :
    ∀ k ∈ declarationKeywords, ∀ k' ∈ declarationKeywords, k.1 = k'.1 → k = k' := by decide

theorem Declares.unique {d' : Declaration} {subtype subtype' : Text} (hd : d.Declares subtype)
    (hd' : d'.Declares subtype') (htext : d.text = d'.text) : d = d' ∧ subtype = subtype' := by
  have heq : d = d' := by
    rw [hd.eq_cut (keyword_ne_nil _ hd.keyword) (keyword_isWord _ hd.keyword), htext,
      ← hd'.eq_cut (keyword_ne_nil _ hd'.keyword) (keyword_isWord _ hd'.keyword)]
  subst heq
  exact ⟨rfl, congrArg Prod.snd (keyword_unique _ hd.keyword _ hd'.keyword rfl)⟩

private theorem read_keywordRow {k : Text × Text} (hk : k ∈ declarationKeywords) {m : Match} :
    (Language.keywordRow k.1 k.2).opening code = some m ↔ ∃ d : Declaration,
      d.Declares k.2 ∧ d.keyword = k.1 ∧ d.text = code ∧ ⟨d.capture.whole, [some d.name]⟩ = m := by
  have hblank : Text.Stops isBlank k.1 :=
    Text.stops_of_forall fun c hc => not_isBlank_of_isWord (keyword_isWord k hk c hc)
  have hcapture {c : Capture} : Opening.readKeyword k.1 code = some c ↔ _ :=
    readKeyword_eq_some_iff (keyword_ne_nil k hk) hblank
  refine Option.map_eq_some_iff.trans ⟨?_, ?_⟩
  · rintro ⟨c, hc, rfl⟩
    obtain ⟨d, hd, hword, htext, rfl⟩ := hcapture.mp hc
    exact ⟨d, ⟨hd, hword ▸ hk⟩, hword, htext, rfl⟩
  · rintro ⟨d, hd, hword, htext, rfl⟩
    exact ⟨d.capture, hcapture.mpr ⟨d, hd.toWellFormed, hword, htext, rfl⟩, rfl⟩

private theorem reads_keywordRow {k : Text × Text} (hk : k ∈ declarationKeywords) :
    (Language.keywordRow k.1 k.2).Reads code ↔
      ∃ d : Declaration, d.Declares k.2 ∧ d.keyword = k.1 ∧ d.text = code := by
  simp only [Row.Reads, Option.isSome_iff_exists, read_keywordRow hk]
  constructor
  · rintro ⟨m, d, hd, hword, htext, -⟩
    exact ⟨d, hd, hword, htext⟩
  · rintro ⟨d, hd, hword, htext⟩
    exact ⟨_, d, hd, hword, htext, rfl⟩

theorem rows_js_unique (code : Text) : ∀ r ∈ Language.js.rows, ∀ r' ∈ Language.js.rows,
    r.Reads code → r'.Reads code → r = r' := by
  intro r hr r' hr' hread hread'
  rw [rows_js] at hr hr'
  obtain ⟨k, hk, rfl⟩ := List.mem_map.mp hr
  obtain ⟨k', hk', rfl⟩ := List.mem_map.mp hr'
  obtain ⟨d, hd, hword, htext⟩ := (reads_keywordRow hk).mp hread
  obtain ⟨d', hd', hword', htext'⟩ := (reads_keywordRow hk').mp hread'
  obtain ⟨rfl, -⟩ := hd.unique hd' (htext.trans htext'.symm)
  rw [keyword_unique k hk k' hk' (hword.symm.trans hword')]

theorem classify_of_declares {subtype : Text} (hd : d.Declares subtype) :
    Language.js.classify d.text = ⟨.define, some subtype, some d.name⟩ := by
  have hread := (read_keywordRow hd.keyword).mpr ⟨d, hd, rfl, rfl, rfl⟩
  have hmem : Language.keywordRow d.keyword subtype ∈ Language.js.rows := by
    rw [rows_js]
    exact List.mem_map_of_mem hd.keyword
  have hverdict : Language.js.classify? d.text = .ok ⟨.define, some subtype, some d.name⟩ :=
    Language.classifyBy_of_unique hmem hread fun r hr hr' =>
      rows_js_unique d.text r hr _ hmem hr' (Option.isSome_of_eq_some hread)
  rw [Language.classify, hverdict]

theorem classify_of_not_declares (h : ¬ ∃ d : Declaration, ∃ s, d.Declares s ∧ d.text = code) :
    Language.js.classify code = .eval := by
  have heval : Language.js.classify? code = .ok .eval := by
    refine Language.classifyBy_of_not_reads fun r hr hread => h ?_
    rw [rows_js] at hr
    obtain ⟨k, hk, rfl⟩ := List.mem_map.mp hr
    obtain ⟨d, hd, -, htext⟩ := (reads_keywordRow hk).mp hread
    exact ⟨d, k.2, hd, htext⟩
  rw [Language.classify, heval]

theorem exists_declares_of_define (hmode : (Language.js.classify code).mode = .define) :
    ∃ d : Declaration, ∃ s, d.Declares s ∧ d.text = code := by
  by_contra hnone
  rw [classify_of_not_declares hnone] at hmode
  cases hmode

/-- A script fragment is a definition exactly if it begins with a declaration, whose name and
subtype it then gets. It begins with one declaration at most, which one row of the table reads, so
that the rows may stand in any order. -/
theorem script_verdict_iff_declares (code : Text) :
    (∀ subtype name,
      Language.js.classifyValue (.text code) = .ok ⟨.define, some subtype, some name⟩ ↔
        ∃ d : Declaration, d.Declares subtype ∧ d.name = name ∧ d.text = code) ∧
    (Language.js.classifyValue (.text code) = .ok .eval ↔
      ¬ ∃ d : Declaration, ∃ subtype, d.Declares subtype ∧ d.text = code) ∧
    (∀ (d d' : Declaration) (subtype subtype' : Text), d.Declares subtype → d'.Declares subtype' →
      d.text = code → d'.text = code → d = d' ∧ subtype = subtype') ∧
    (∀ r ∈ Language.js.rows, ∀ r' ∈ Language.js.rows, r.Reads code → r'.Reads code → r = r') ∧
    ∀ rows : List Row, rows.Perm Language.js.rows →
      { Language.js with rows := rows }.classifyValue (.text code) =
        Language.js.classifyValue (.text code) := by
  have hvalue := Language.classifyValue_web Language.js_mem_web code
  refine ⟨fun subtype name => ?_, ?_, ?_, rows_js_unique code, fun rows hperm => ?_⟩
  · rw [hvalue]
    constructor
    · intro h
      by_cases hdeclares : ∃ d : Declaration, ∃ s, d.Declares s ∧ d.text = code
      · obtain ⟨d, s, hd, rfl⟩ := hdeclares
        rw [classify_of_declares hd] at h
        cases h
        exact ⟨d, hd, rfl, rfl⟩
      · rw [classify_of_not_declares hdeclares] at h
        cases h
    · rintro ⟨d, hd, rfl, rfl⟩
      rw [classify_of_declares hd]
  · rw [hvalue]
    constructor
    · rintro h ⟨d, s, hd, rfl⟩
      rw [classify_of_declares hd] at h
      cases h
    · exact fun h => congrArg Except.ok (classify_of_not_declares h)
  · exact fun d d' s s' hd hd' htext htext' => hd.unique hd' (htext.trans htext'.symm)
  · exact Language.classifyBy_perm hperm (rows_js_unique code)

/-- A variable after blanks of several kinds, with letters beyond ASCII in its name; the keywords
are tried from the last to the first. -/
theorem script_verdict_spaced :
    let d : Declaration := ⟨"\n\u00A0", "let", " \t", "größe_2", "= 1\nconst later = 2"⟩
    let reversed := { Language.js with rows := Language.js.rows.reverse }
    d.Declares "variable" ∧ reversed.rows.Perm Language.js.rows ∧
      reversed.classifyValue (.text d.text) =
        .ok ⟨.define, some "variable", some "größe_2"⟩ := by
  intro d reversed
  have hd : d.Declares "variable" :=
    ⟨⟨by decide, by decide, by decide, by decide, by decide +kernel, by decide +kernel⟩, by decide⟩
  have hperm : reversed.rows.Perm Language.js.rows := List.reverse_perm _
  obtain ⟨hdefine, -, -, -, horder⟩ := script_verdict_iff_declares d.text
  refine ⟨hd, hperm, ?_⟩
  rw [horder reversed.rows hperm]
  exact (hdefine "variable" "größe_2").mpr ⟨d, hd, rfl, rfl⟩

end Declaration

end SceneBook
