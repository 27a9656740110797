import SceneBook.Language.Web
import SceneBook.Proofs.Results
import Mathlib.Data.List.Nodup

/-!
# Tables of rows

What a table makes of a text that none of its rows reads, or one row only. Where no two rows read
a text, their order does not matter. The first row that reads a text decides, if its match has the
parts that its verdict is made of.
-/

namespace SceneBook

namespace Row

/-- Whether the row reads the start of a text, and so could decide about it. -/
def Reads (r : Row) (code : Text) : Prop := (r.opening code).isSome

/-- The match has a group for each part that the row asks for, and one that took part for a subtype
that is put into lower case. -/
structure Decides (r : Row) (lowercase : Bool) (m : Match) : Prop where
  subtype : r.subtype = none → ∀ p ∈ r.subtypePart, ∃ t?, m.part p = .ok t? ∧
    (lowercase = true → t?.isSome)
  name : ∀ p ∈ r.namePart, ∃ t?, m.part p = .ok t?

variable {r : Row} {lowercase : Bool} {m : Match}

private theorem exists_capturedSubtype_iff {p : Part} :
    (∃ t?, capturedSubtype m lowercase p = .ok t?) ↔
      ∃ t?, m.part p = .ok t? ∧ (lowercase = true → t?.isSome) := by
  unfold capturedSubtype
  cases m.part p with
  | error e => exact ⟨nofun, nofun⟩
  | ok t? => cases lowercase <;> cases t? <;> simp [bind, Except.bind]

private theorem exists_subtypeOf_iff :
    (∃ t?, r.subtypeOf lowercase m = .ok t?) ↔ (r.subtype = none → ∀ p ∈ r.subtypePart,
      ∃ t?, m.part p = .ok t? ∧ (lowercase = true → t?.isSome)) := by
  unfold subtypeOf
  cases r.subtype with
  | some s => simp
  | none =>
    cases r.subtypePart with
    | none => simp
    | some p => simp [exists_capturedSubtype_iff]

private theorem exists_nameOf_iff :
    (∃ t?, r.nameOf m = .ok t?) ↔ ∀ p ∈ r.namePart, ∃ t?, m.part p = .ok t? := by
  unfold nameOf
  cases r.namePart <;> simp

private theorem decides_iff : r.Decides lowercase m ↔ ∃ c, r.verdict lowercase m = .ok c := by
  constructor
  · rintro ⟨hsubtype, hname⟩
    obtain ⟨subtype, hsubtype⟩ := exists_subtypeOf_iff.mpr hsubtype
    obtain ⟨name, hname⟩ := exists_nameOf_iff.mpr hname
    exact ⟨_, bind_eq_ok_iff.mpr ⟨_, hsubtype, bind_eq_ok_iff.mpr ⟨_, hname, rfl⟩⟩⟩
  · rintro ⟨c, hc⟩
    obtain ⟨subtype, hsubtype, hc⟩ := bind_eq_ok_iff.mp hc
    obtain ⟨name, hname, -⟩ := bind_eq_ok_iff.mp hc
    exact ⟨exists_subtypeOf_iff.mp ⟨subtype, hsubtype⟩, exists_nameOf_iff.mp ⟨name, hname⟩⟩

instance (r : Row) (lowercase : Bool) (m : Match) : Decidable (r.Decides lowercase m) :=
  decidable_of_iff ((r.verdict lowercase m).toOption.isSome) (by
    rw [decides_iff, Option.isSome_iff_exists]
    simp only [toOption_eq_some_iff])

/-- A group that took no part has no text to put into lower case. -/
example : (⟨fun code => some ⟨code, [none]⟩, none, some 1, none⟩ : Row).verdict true
    ⟨"let a", [none]⟩ = .error .noSuchPart := rfl

def Answers (r : Row) (lowercase : Bool) : Prop :=
  ∀ code, ∀ m ∈ r.opening code, r.Decides lowercase m

theorem answers_tagRow (names : List Text) (lowercase : Bool) :
    (Language.tagRow names).Answers lowercase := by
  intro code m hm
  obtain ⟨c, -, rfl⟩ := Option.map_eq_some_iff.mp hm
  constructor
  · rintro - p ⟨⟩
    exact ⟨some c.name, rfl, fun _ => rfl⟩
  · rintro p ⟨⟩

private theorem answers_keywordRow (word subtype : Text) (lowercase : Bool) :
    (Language.keywordRow word subtype).Answers lowercase := by
  intro code m hm
  obtain ⟨c, -, rfl⟩ := Option.map_eq_some_iff.mp hm
  constructor
  · rintro ⟨⟩
  · rintro p ⟨⟩
    exact ⟨some c.name, rfl⟩

end Row

namespace Language

variable {rows : List Row} {lowercase : Bool} {fallback : Mode} {code : Text}

theorem classifyBy_of_not_reads (h : ∀ r ∈ rows, ¬ r.Reads code) :
    classifyBy rows lowercase fallback code = .ok ⟨fallback, none, none⟩ := by
  induction rows with
  | nil => rfl
  | cons r rest ih =>
    have hr : r.opening code = none := by
      simpa [Row.Reads] using h r List.mem_cons_self
    rw [classifyBy, hr]
    exact ih fun r' hr' => h r' (List.mem_cons_of_mem _ hr')

theorem classifyBy_of_unique {r : Row} {m : Match} (hr : r ∈ rows)
    (hread : r.opening code = some m) (hunique : ∀ r' ∈ rows, r'.Reads code → r' = r) :
    classifyBy rows lowercase fallback code = r.verdict lowercase m := by
  induction rows with
  | nil => cases hr
  | cons first rest ih =>
    rw [classifyBy]
    cases hfirst : first.opening code with
    | some found =>
      have heq : first = r :=
        hunique first List.mem_cons_self (Option.isSome_of_eq_some hfirst)
      subst heq
      rw [Option.some.inj (hfirst.symm.trans hread)]
    | none =>
      have hrest : r ∈ rest := by
        rcases List.mem_cons.mp hr with rfl | hrest
        · rw [hfirst] at hread
          cases hread
        · exact hrest
      exact ih hrest fun r' hr' => hunique r' (List.mem_cons_of_mem _ hr')

/-- The order of rows does not matter where no two of them read the text. -/
theorem classifyBy_perm {rows' : List Row} (hperm : rows'.Perm rows)
    (hunique : ∀ r ∈ rows, ∀ r' ∈ rows, r.Reads code → r'.Reads code → r = r') :
    classifyBy rows' lowercase fallback code = classifyBy rows lowercase fallback code := by
  by_cases hreads : ∃ r ∈ rows, r.Reads code
  · obtain ⟨r, hr, hread⟩ := hreads
    obtain ⟨m, hm⟩ := Option.isSome_iff_exists.mp hread
    have hall (r' : Row) (hr' : r' ∈ rows) (hread' : r'.Reads code) : r' = r :=
      hunique r' hr' r hr hread' hread
    rw [classifyBy_of_unique hr hm hall, classifyBy_of_unique (hperm.mem_iff.mpr hr) hm]
    exact fun r' hr' => hall r' (hperm.mem_iff.mp hr')
  · have hnone (r : Row) (hr : r ∈ rows) : ¬ r.Reads code := fun hread => hreads ⟨r, hr, hread⟩
    rw [classifyBy_of_not_reads hnone, classifyBy_of_not_reads]
    exact fun r hr => hnone r (hperm.mem_iff.mp hr)

theorem exists_classifyBy_iff : (∃ c, classifyBy rows lowercase fallback code = .ok c) ↔
    ∀ row ∈ rows.find? (fun row => (row.opening code).isSome), ∀ m ∈ row.opening code,
      row.Decides lowercase m := by
  induction rows with
  | nil => simp [classifyBy]
  | cons r rest ih =>
    rw [classifyBy, List.find?_cons]
    cases hread : r.opening code with
    | none => exact ih
    | some m => simp [Row.decides_iff, hread]

theorem classify?_eq_ok_iff {l : Language} :
    l.classify? code = .ok (l.classify code) ↔ ∃ c, l.classify? code = .ok c := by
  unfold classify
  cases l.classify? code <;> simp

theorem isBrokenBy_eq_false_iff (l : Language) (code : Text) :
    l.isBrokenBy code = false ↔ ∃ c, l.classify? code = .ok c := by
  unfold isBrokenBy
  cases l.classify? code <;> simp [Except.toOption]

/-- A language whose rows have a verdict on all that they match has one on every text. -/
theorem classify?_of_answers {l : Language} (h : ∀ row ∈ l.rows, row.Answers l.lowercaseSubtype)
    (code : Text) : l.classify? code = .ok (l.classify code) := by
  rw [classify?_eq_ok_iff, classify?, exists_classifyBy_iff]
  exact fun row hrow => h row (List.mem_of_find?_eq_some hrow) code

theorem classifyValue_text {l : Language} (h : ∀ row ∈ l.rows, row.Answers l.lowercaseSubtype)
    (code : Text) : l.classifyValue (.text code) = .ok (l.classify code) :=
  classify?_of_answers h code

theorem eq_of_tag_eq {l l' : Language} (hl : l ∈ web) (hl' : l' ∈ web) (h : l.tag = l'.tag) :
    l = l' := by
  have htags : (web.map tag).Nodup := by decide
  exact List.inj_on_of_nodup_map htags hl hl' h

theorem ne_of_tag_ne {l l' : Language} (h : l.tag ≠ l'.tag) : l ≠ l' := mt (congrArg tag) h

theorem answers_web {l : Language} (hl : l ∈ web) :
    ∀ row ∈ l.rows, row.Answers l.lowercaseSubtype := by
  simp only [web, List.mem_cons, List.not_mem_nil, or_false] at hl
  rcases hl with rfl | rfl | rfl | rfl
  · simp [html, Row.answers_tagRow]
  · simp [css]
  · simp [svg, Row.answers_tagRow]
  · simp [js, Row.answers_keywordRow]

theorem classifyValue_web {l : Language} (hl : l ∈ web) (code : Text) :
    l.classifyValue (.text code) = .ok (l.classify code) :=
  classifyValue_text (answers_web hl) code

end Language

end SceneBook
