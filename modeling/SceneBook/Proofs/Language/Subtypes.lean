import SceneBook.Proofs.Language.Declarations
import SceneBook.Proofs.Language.OpeningTags

/-!
# Subtypes

A definition of a web language has one of few subtypes, and the name of a tag is put into lower case
for that. Two notions of case meet there: a tag is compared ignoring case, where the long s is an s,
and a long s is its own lower case. So the subtype is one of the few unless the tag is written with
a long s, and is one of them even then once that is read as an s.
-/

namespace SceneBook

/-- The letter that is an s ignoring case and stays what it is in lower case. -/
def CodePoint.longS : CodePoint := .scalar '\u017F'

open CodePoint (longS)

/-- The subtypes that definitions of the web languages are meant to have. -/
def canonicalSubtypes : List (Language × List (Option Text)) :=
  [(.html, [some "template"]), (.css, [none]), (.svg, [some "defs", some "symbol"]),
    (.js, [some "function", some "constant", some "variable"])]

private theorem svg_mem_canonicalSubtypes :
    (Language.svg, [some ("defs" : Text), some "symbol"]) ∈ canonicalSubtypes :=
  .tail _ (.tail _ (.head _))

private theorem mem_web_of_canonicalSubtypes {l : Language} {subtypes : List (Option Text)}
    (h : (l, subtypes) ∈ canonicalSubtypes) : l ∈ Language.web := by
  have hlanguages : canonicalSubtypes.map Prod.fst = Language.web := rfl
  exact hlanguages ▸ List.mem_map_of_mem h

/-- The text begins with the tag of a definition, and its name is written with a long s. -/
def OpensWithLongS (l : Language) (code : Text) : Prop :=
  ∃ names, (l, names) ∈ definitionTags ∧
    ∃ t : OpeningTag, t.Opens names ∧ t.text = code ∧ longS ∈ t.name

/-- The subtypes of definitions that are told by one of these tags. -/
def subtypesOfTags (names : List String) : List (Option Text) :=
  names.map fun n => some (Text.ofString n)

namespace Text

/-- The text with every long s read as an s. -/
def plainS (t : Text) : Text := t.map fun c => if c = longS then .scalar 's' else c

private theorem plainS_eq_self {t : Text} (h : longS ∉ t) : t.plainS = t := by
  have hsame : ∀ c ∈ t, (if c = longS then .scalar 's' else c) = c :=
    fun c hc => if_neg fun heq : c = longS => h (heq ▸ hc)
  exact (List.map_congr_left hsame).trans (List.map_id' t)

private theorem lower_eq_flatMap {t : Text} (h : CodePoint.scalar '\u03A3' ∉ t) :
    t.lower = t.flatMap CodePoint.lower := by
  have hafter (seen : Text) : lowerAfter seen t = t.flatMap CodePoint.lower := by
    induction t generalizing seen with
    | nil => rfl
    | cons c cs ih =>
      obtain ⟨hc, hcs⟩ := not_or.mp (mt List.mem_cons.mpr h)
      rw [lowerAfter, if_neg (Ne.symm hc), ih hcs, List.flatMap_cons]
  exact hafter []

end Text

private theorem lower_of_isLower {a : Char} (ha : a.isLower) :
    (CodePoint.scalar a).lower = [.scalar a] ∧
      (CodePoint.scalar a.toUpper).lower = [.scalar a] := by
  have hall : ∀ n < 128, (Char.ofNat n).isLower →
      (CodePoint.scalar (Char.ofNat n)).lower = [.scalar (Char.ofNat n)] ∧
        (CodePoint.scalar (Char.ofNat n).toUpper).lower = [.scalar (Char.ofNat n)] := by
    decide +kernel
  have hletter := hall a.toNat (by have := isLower_iff.mp ha; omega)
  rw [Char.ofNat_toNat] at hletter
  exact hletter ha

/-- Whatever is written for a letter is an ASCII character or the long s. -/
theorem SameLetter.ascii {a : Char} {c : CodePoint} (ha : a.isLower) (h : SameLetter a c) :
    c.code < 128 ∨ a = 's' ∧ c = CodePoint.longS := by
  have hrange := isLower_iff.mp ha
  have hupper := toNat_toUpper ha
  cases h with
  | lower =>
    left
    change a.toNat < 128
    omega
  | upper =>
    left
    change a.toUpper.toNat < 128
    omega
  | longS => exact .inr ⟨rfl, rfl⟩

private theorem longS_ne_of_ascii {c : CodePoint} (hc : c.code < 128) : longS ≠ c := by
  rintro rfl
  exact absurd hc (by decide)

private theorem SameLetter.exists_lower {a : Char} {c : CodePoint} (ha : a.isLower)
    (h : SameLetter a c) :
    ∃ c', c.lower = [c'] ∧ Text.plainS [c'] = [.scalar a] ∧
      (CodePoint.longS = c' ↔ CodePoint.longS = c) := by
  obtain ⟨hlower, hupper⟩ := lower_of_isLower ha
  rcases h.ascii ha with hascii | ⟨rfl, rfl⟩
  · have hcode : (CodePoint.scalar a).code < 128 :=
      Nat.lt_of_le_of_lt (isLower_iff.mp ha).2 (by decide)
    have hne := longS_ne_of_ascii hcode
    have hplain : Text.plainS [.scalar a] = [.scalar a] := Text.plainS_eq_self (by simpa using hne)
    cases h with
    | lower => exact ⟨.scalar a, hlower, hplain, Iff.rfl⟩
    | upper => exact ⟨.scalar a, hupper, hplain, iff_of_false hne (longS_ne_of_ascii hascii)⟩
    | longS => exact absurd rfl (longS_ne_of_ascii hascii)
  · exact ⟨CodePoint.longS, rfl, rfl, Iff.rfl⟩

section

variable {letters : List Char} {written : Text}

private theorem sigma_not_mem (hlower : ∀ a ∈ letters, a.isLower)
    (h : List.Forall₂ SameLetter letters written) : CodePoint.scalar '\u03A3' ∉ written := by
  induction h with
  | nil => exact List.not_mem_nil
  | @cons a c _ _ hcase _ ih =>
    obtain ⟨ha, hletters⟩ := List.forall_mem_cons.mp hlower
    rw [List.mem_cons, not_or]
    refine ⟨?_, ih hletters⟩
    rintro rfl
    rcases hcase.ascii ha with hascii | ⟨-, hlong⟩
    · exact absurd hascii (by decide)
    · exact absurd hlong (by decide)

private theorem lower_written (hlower : ∀ a ∈ letters, a.isLower)
    (h : List.Forall₂ SameLetter letters written) :
    written.lower.plainS = Text.ofChars letters ∧ (longS ∈ written.lower ↔ longS ∈ written) := by
  rw [Text.lower_eq_flatMap (sigma_not_mem hlower h)]
  induction h with
  | nil => exact ⟨rfl, Iff.rfl⟩
  | @cons a c letters cs hcase _ ih =>
    obtain ⟨ha, hletters⟩ := List.forall_mem_cons.mp hlower
    obtain ⟨hplain, hlong⟩ := ih hletters
    obtain ⟨c', hc, hletter, hsame⟩ := hcase.exists_lower ha
    rw [List.flatMap_cons, hc, List.mem_append, List.mem_singleton, hsame, hlong, List.mem_cons]
    refine ⟨?_, Iff.rfl⟩
    change Text.plainS [c'] ++ Text.plainS (cs.flatMap CodePoint.lower) = _
    rw [hletter, hplain]
    rfl

private theorem mem_letters_of_longS_mem (hlower : ∀ a ∈ letters, a.isLower)
    (h : List.Forall₂ SameLetter letters written) (hlong : longS ∈ written) : 's' ∈ letters := by
  induction h with
  | nil => cases hlong
  | @cons a c letters cs hcase _ ih =>
    obtain ⟨ha, hletters⟩ := List.forall_mem_cons.mp hlower
    rcases List.mem_cons.mp hlong with rfl | hlong
    · rcases hcase.ascii ha with hascii | ⟨rfl, -⟩
      · exact absurd rfl (longS_ne_of_ascii hascii)
      · exact List.mem_cons_self
    · exact List.mem_cons_of_mem a (ih hletters hlong)

end

private theorem longS_not_mem_letters {letters : List Char} (hlower : ∀ a ∈ letters, a.isLower) :
    longS ∉ Text.ofChars letters := by
  intro hmem
  obtain ⟨a, ha, heq⟩ := List.mem_map.mp hmem
  rw [CodePoint.scalar.inj heq] at ha
  exact absurd (hlower _ ha) (by decide)

private theorem subtype_of_opens {l : Language} {names : List String}
    (h : (l, names) ∈ definitionTags) {t : OpeningTag} (ht : t.Opens names) :
    ((l.classify t.text).subtype ∈ subtypesOfTags names ↔ longS ∉ t.name) ∧
      (l.classify t.text).subtype.map Text.plainS ∈ subtypesOfTags names := by
  have hlower := (OpeningTag.mem_definitionTags h).1
  obtain ⟨n, hn, hname⟩ := ht.name
  obtain ⟨hplain, hlong⟩ := lower_written (hlower n hn) hname
  rw [OpeningTag.classify_of_opens h ht]
  refine ⟨⟨fun hmem => ?_, fun hnone => ?_⟩, List.mem_map.mpr ⟨n, hn, congrArg some hplain.symm⟩⟩
  · obtain ⟨m, hm, heq⟩ := List.mem_map.mp hmem
    rw [← hlong, ← Option.some.inj heq]
    exact longS_not_mem_letters (hlower m hm)
  · rw [← hlong] at hnone
    rw [Text.plainS_eq_self hnone] at hplain
    exact List.mem_map.mpr ⟨n, hn, congrArg some hplain.symm⟩

private theorem definitionTags_unique :
    ∀ p ∈ definitionTags, ∀ q ∈ definitionTags, p.1 = q.1 → p = q := by
  intro p hp q hq h
  have htags : (definitionTags.map fun p => p.1.tag).Nodup := by decide
  exact List.inj_on_of_nodup_map htags hp hq (congrArg Language.tag h)

private theorem opensWithLongS_iff {l : Language} {names : List String}
    (h : (l, names) ∈ definitionTags)
    {t : OpeningTag} (ht : t.Opens names) : OpensWithLongS l t.text ↔ longS ∈ t.name := by
  constructor
  · rintro ⟨names', h', t', ht', htext, hlong⟩
    cases definitionTags_unique _ h' _ h rfl
    have hlower := (OpeningTag.mem_definitionTags h).1
    rwa [ht.eq_cut hlower, ← htext, ← ht'.eq_cut hlower]
  · exact fun hlong => ⟨names, h, t, ht, rfl, hlong⟩

private theorem OpensWithLongS.eq_svg {l : Language} {code : Text} (h : OpensWithLongS l code) :
    l = .svg := by
  obtain ⟨names, htags, t, ht, -, hlong⟩ := h
  obtain ⟨n, hn, hname⟩ := ht.name
  have hs : 's' ∈ n.toList :=
    mem_letters_of_longS_mem ((OpeningTag.mem_definitionTags htags).1 n hn) hname hlong
  simp only [definitionTags, List.mem_cons, Prod.mk.injEq, List.not_mem_nil, or_false] at htags
  rcases htags with ⟨-, rfl⟩ | ⟨rfl, -⟩
  · obtain rfl := List.mem_singleton.mp hn
    exact absurd hs (by decide)
  · rfl

private theorem subtype_of_tags {l : Language} {names : List String}
    (h : (l, names) ∈ definitionTags) {code : Text} (hmode : (l.classify code).mode = .define) :
    ((l.classify code).subtype ∈ subtypesOfTags names ↔ ¬ OpensWithLongS l code) ∧
      (l.classify code).subtype.map Text.plainS ∈ subtypesOfTags names := by
  obtain ⟨t, ht, rfl⟩ := OpeningTag.exists_opens_of_define h hmode
  rw [opensWithLongS_iff h ht]
  exact subtype_of_opens h ht

/-- A definition of a web language has one of the subtypes of the language, unless it begins with a
tag that is written with a long s. That can only be in graphics, and then the subtype is one of them
once the long s is read as an s. -/
theorem subtype_canonical_iff {l : Language} {subtypes : List (Option Text)}
    (h : (l, subtypes) ∈ canonicalSubtypes) (code : Text) :
    ∃ v, l.classifyValue (.text code) = .ok v ∧ (v.mode = .define →
      (v.subtype ∈ subtypes ↔ ¬ OpensWithLongS l code) ∧
      v.subtype.map Text.plainS ∈ subtypes ∧ (OpensWithLongS l code → l = .svg)) := by
  refine ⟨l.classify code, Language.classifyValue_web (mem_web_of_canonicalSubtypes h) code,
    fun hmode => ?_⟩
  refine and_assoc.mp ⟨?_, OpensWithLongS.eq_svg⟩
  simp only [canonicalSubtypes, List.mem_cons, Prod.mk.injEq, List.not_mem_nil, or_false] at h
  rcases h with ⟨rfl, rfl⟩ | ⟨rfl, rfl⟩ | ⟨rfl, rfl⟩ | ⟨rfl, rfl⟩
  · exact subtype_of_tags OpeningTag.html_mem_definitionTags hmode
  · have hplain : ¬ OpensWithLongS .css code := fun hlong =>
      absurd hlong.eq_svg (Language.ne_of_tag_ne (by decide))
    have hverdict : Language.css.classify code = ⟨.define, none, none⟩ := rfl
    simp [hverdict, hplain]
  · exact subtype_of_tags OpeningTag.svg_mem_definitionTags hmode
  · have hplain : ¬ OpensWithLongS .js code := fun hlong =>
      absurd hlong.eq_svg (Language.ne_of_tag_ne (by decide))
    obtain ⟨d, subtype, hd, rfl⟩ := Declaration.exists_declares_of_define hmode
    have hsubtypes : ∀ k ∈ declarationKeywords,
        some k.2 ∈ ([some "function", some "constant", some "variable"] : List (Option Text)) ∧
          Text.plainS k.2 = k.2 := by decide
    obtain ⟨hmem, hself⟩ := hsubtypes _ hd.keyword
    rw [Declaration.classify_of_declares hd, Option.map_some, hself]
    exact ⟨iff_of_true hmem hplain, hmem⟩

/-- A symbol in mixed case has the subtype of all symbols, and one with a long s has it but for that
letter. -/
theorem subtype_canonical_mixed :
    let subtypes : List (Option Text) := [some "defs", some "symbol"]
    (Language.svg, subtypes) ∈ canonicalSubtypes ∧
    (∃ v, Language.svg.classifyValue (.text "\n<SyMBOL/>") = .ok v ∧ v.mode = .define ∧
      v.subtype ∈ subtypes ∧ ¬ OpensWithLongS .svg "\n<SyMBOL/>") ∧
    ∃ v, Language.svg.classifyValue (.text "<\u017Fymbol>") = .ok v ∧ v.mode = .define ∧
      v.subtype.map Text.plainS ∈ subtypes := by
  intro subtypes
  have hmem : (Language.svg, subtypes) ∈ canonicalSubtypes := svg_mem_canonicalSubtypes
  have hmixed : Language.svg.classifyValue (.text "\n<SyMBOL/>") =
      .ok ⟨.define, some "symbol", none⟩ := by decide +kernel
  have hlong : Language.svg.classifyValue (.text "<\u017Fymbol>") =
      .ok ⟨.define, some "\u017Fymbol", none⟩ := by decide +kernel
  obtain ⟨v, hv, hcanonical⟩ := subtype_canonical_iff hmem "\n<SyMBOL/>"
  obtain ⟨w, hw, hplain⟩ := subtype_canonical_iff hmem "<\u017Fymbol>"
  cases hmixed.symm.trans hv
  cases hlong.symm.trans hw
  have hsymbol : some ("symbol" : Text) ∈ subtypes := by decide
  exact ⟨hmem, ⟨_, hv, rfl, hsymbol, (hcanonical rfl).1.mp hsymbol⟩, _, hw, rfl, (hplain rfl).2.1⟩

/-- A tag with a long s makes a definition whose subtype is none of graphics. -/
theorem longS_subtype :
    let subtypes : List (Option Text) := [some "defs", some "symbol"]
    (Language.svg, subtypes) ∈ canonicalSubtypes ∧
    ∃ v, Language.svg.classifyValue (.text "<def\u017F>") = .ok v ∧ v.mode = .define ∧
      v.subtype ∉ subtypes := by
  have hverdict : Language.svg.classifyValue (.text "<def\u017F>") =
      .ok ⟨.define, some "def\u017F", none⟩ := by decide +kernel
  exact ⟨svg_mem_canonicalSubtypes, _, hverdict, rfl, by decide⟩

end SceneBook
