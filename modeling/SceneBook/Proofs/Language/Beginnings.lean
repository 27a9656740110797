import SceneBook.Proofs.Language.Declarations
import SceneBook.Proofs.Language.OpeningTags

/-!
# Beginnings

Only the beginning of a fragment has a say in its verdict. Blanks ahead of a text change nothing in
it, and a definition stays one with the same subtype whatever is put behind it. The one thing that
can change then is a declared name at the very end of the text, which goes on as far as word
characters do.
-/

namespace SceneBook

open CodePoint (isBlank isWord)

def Capture.behind (lead : Text) (c : Capture) : Capture := { c with whole := lead ++ c.whole }

def Match.behind (lead : Text) (m : Match) : Match := { m with whole := lead ++ m.whole }

namespace Opening

variable {lead : Text}

private theorem readKeyword_behind (hlead : ∀ c ∈ lead, c.isBlank) (word code : Text) :
    readKeyword word (lead ++ code) = (readKeyword word code).map (Capture.behind lead) := by
  unfold readKeyword
  rw [List.takeWhile_append_of_pos hlead, List.dropWhile_append_of_pos hlead]
  cases Text.dropPrefix? word (code.dropWhile isBlank) with
  | none => rfl
  | some rest =>
    simp only [Option.bind_eq_bind, Option.bind_some]
    split
    · rfl
    · simp [Capture.behind]

private theorem readNamed_behind (lead first inner name : Text) :
    OpeningTag.readNamed (lead ++ first) inner name =
      (OpeningTag.readNamed first inner name).map (Capture.behind lead) := by
  unfold OpeningTag.readNamed
  cases takeName? name inner with
  | none => rfl
  | some found =>
    obtain ⟨written, rest⟩ := found
    simp only [Option.bind_eq_bind, Option.bind_some]
    cases (rest.drop (rest.takeWhile fun c => decide (c ≠ .scalar '>')).length).head? with
    | none => rfl
    | some final =>
      simp only [Option.bind_some]
      split
      · simp [Capture.behind]
      · rfl

private theorem readTag_behind (hlead : ∀ c ∈ lead, c.isBlank) (names : List Text) (code : Text) :
    readTag names (lead ++ code) = (readTag names code).map (Capture.behind lead) := by
  have hcut : code.takeWhile isBlank ++ code.dropWhile isBlank = code :=
    List.takeWhile_append_dropWhile
  have hfirst : ∀ c ∈ code.takeWhile isBlank, c.isBlank := fun _ => List.mem_takeWhile_imp
  cases hrest : code.dropWhile isBlank with
  | nil => simp [readTag, List.dropWhile_append_of_pos hlead, hrest]
  | cons angle inner =>
    by_cases hangle : angle = .scalar '<'
    · subst hangle
      have hall : ∀ c ∈ lead ++ code.takeWhile isBlank, c.isBlank :=
        fun c hc => (List.mem_append.mp hc).elim (hlead c) (hfirst c)
      rw [hrest] at hcut
      rw [← hcut, ← List.append_assoc, OpeningTag.readTag_angle hall,
        OpeningTag.readTag_angle hfirst, List.map_findSome?]
      have hnamed : OpeningTag.readNamed (lead ++ code.takeWhile isBlank) inner =
          Option.map (Capture.behind lead) ∘ OpeningTag.readNamed (code.takeWhile isBlank) inner :=
        funext (readNamed_behind lead _ inner)
      rw [hnamed]
    · simp [readTag, List.dropWhile_append_of_pos hlead, hrest, hangle]

private theorem read_behind (hlead : ∀ c ∈ lead, c.isBlank) (o : Opening) (code : Text) :
    o.read (lead ++ code) = (o.read code).map (Capture.behind lead) := by
  cases o with
  | keyword word => exact readKeyword_behind hlead word code
  | tag names => exact readTag_behind hlead names code

private theorem pattern_behind (hlead : ∀ c ∈ lead, c.isBlank) (o : Opening) (code : Text) :
    o.pattern (lead ++ code) = (o.pattern code).map (Match.behind lead) := by
  rw [pattern, pattern, read_behind hlead, Option.map_map, Option.map_map]
  rfl

end Opening

/-- Blanks ahead of a text show nowhere but in all that the row has read, from which it takes
nothing. -/
structure Row.SkipsBlanks (r : Row) : Prop where
  opening : ∀ lead code : Text, (∀ c ∈ lead, c.isBlank) →
    r.opening (lead ++ code) = (r.opening code).map (Match.behind lead)
  subtype : r.subtypePart ≠ some .whole
  name : r.namePart ≠ some .whole

namespace Row

private theorem skipsBlanks_tagRow (names : List Text) : (Language.tagRow names).SkipsBlanks where
  opening _ code hlead := (Opening.tag names).pattern_behind hlead code
  subtype := by simp [Language.tagRow, Part.name, Part.whole]
  name := nofun

private theorem skipsBlanks_keywordRow (word subtype : Text) :
    (Language.keywordRow word subtype).SkipsBlanks where
  opening _ code hlead := (Opening.keyword word).pattern_behind hlead code
  subtype := nofun
  name := by simp [Language.keywordRow, Part.name, Part.whole]

private theorem part_behind (lead : Text) (m : Match) {p : Part} (hp : p ≠ .whole) :
    (m.behind lead).part p = m.part p := by
  unfold Match.part
  split
  · rfl
  · next hsign =>
    have hzero : p.toNat ≠ 0 := fun hzero =>
      hp (Int.le_antisymm (Int.toNat_eq_zero.mp hzero) (Int.not_lt.mp hsign))
    obtain ⟨i, hi⟩ := Nat.exists_eq_succ_of_ne_zero hzero
    rw [hi]
    rfl

private theorem verdict_behind {r : Row} (hr : r.SkipsBlanks) (lowercase : Bool) (lead : Text)
    (m : Match) : r.verdict lowercase (m.behind lead) = r.verdict lowercase m := by
  have hsubtype : r.subtypeOf lowercase (m.behind lead) = r.subtypeOf lowercase m := by
    unfold subtypeOf
    cases r.subtype with
    | some s => rfl
    | none =>
      cases hpart : r.subtypePart with
      | none => rfl
      | some p =>
        have hp : p ≠ .whole := fun heq => hr.subtype (heq ▸ hpart)
        simp only [capturedSubtype, part_behind lead m hp]
  have hname : r.nameOf (m.behind lead) = r.nameOf m := by
    unfold nameOf
    cases hpart : r.namePart with
    | none => rfl
    | some p => exact part_behind lead m fun heq => hr.name (heq ▸ hpart)
  rw [verdict, verdict, hsubtype, hname]

end Row

namespace Language

private theorem classifyBy_behind {rows : List Row} (hrows : ∀ r ∈ rows, r.SkipsBlanks)
    {lead : Text} (hlead : ∀ c ∈ lead, c.isBlank) (lowercase : Bool) (fallback : Mode)
    (code : Text) :
    classifyBy rows lowercase fallback (lead ++ code) =
      classifyBy rows lowercase fallback code := by
  induction rows with
  | nil => rfl
  | cons r rest ih =>
    obtain ⟨hr, hrest⟩ := List.forall_mem_cons.mp hrows
    rw [classifyBy, classifyBy, hr.opening lead code hlead]
    cases r.opening code with
    | none => exact ih hrest
    | some m => exact r.verdict_behind hr lowercase lead m

private theorem skipsBlanks_web {l : Language} (hl : l ∈ web) : ∀ r ∈ l.rows, r.SkipsBlanks := by
  simp only [web, List.mem_cons, List.not_mem_nil, or_false] at hl
  rcases hl with rfl | rfl | rfl | rfl
  · simp [html, Row.skipsBlanks_tagRow]
  · simp [css]
  · simp [svg, Row.skipsBlanks_tagRow]
  · simp [js, Row.skipsBlanks_keywordRow]

end Language

private theorem OpeningTag.classify_append {l : Language} {names : List String}
    (h : (l, names) ∈ definitionTags) {code : Text} (hmode : (l.classify code).mode = .define)
    (more : Text) : l.classify (code ++ more) = l.classify code := by
  obtain ⟨t, ht, rfl⟩ := exists_opens_of_define h hmode
  let t' : OpeningTag := { t with rest := t.rest ++ more }
  have ht' : t'.Opens names := ⟨⟨ht.lead, ht.body, ht.ends⟩, ht.name⟩
  have htext : t.text ++ more = t'.text := by simp [t', text]
  rw [htext, classify_of_opens h ht', classify_of_opens h ht]

namespace Declaration

/-- The declaration of a text with more text behind it. A name at the end of the text goes on. -/
def append (d : Declaration) (more : Text) : Declaration :=
  if d.rest = [] then
    { d with name := d.name ++ more.takeWhile isWord, rest := more.dropWhile isWord }
  else { d with rest := d.rest ++ more }

private theorem text_append (d : Declaration) (more : Text) :
    (d.append more).text = d.text ++ more := by
  unfold append
  split
  · next hrest => simp [text, hrest, List.takeWhile_append_dropWhile]
  · simp [text]

variable {d : Declaration} {subtype : Text}

private theorem Declares.append (hd : d.Declares subtype) (more : Text) :
    (d.append more).Declares subtype := by
  unfold Declaration.append
  split
  · refine ⟨⟨hd.lead, hd.gap_ne, hd.gap, by simp [hd.name_ne], ?_, Text.stops_dropWhile _ _⟩,
      hd.keyword⟩
    intro c hc
    rcases List.mem_append.mp hc with hc | hc
    · exact hd.name c hc
    · exact List.mem_takeWhile_imp hc
  · next hrest =>
    exact ⟨⟨hd.lead, hd.gap_ne, hd.gap, hd.name_ne, hd.name, (Text.stops_append hrest).mpr hd.rest⟩,
      hd.keyword⟩

/-- The text is a declaration from its first character to its last, blanks ahead of it aside:
nothing follows the name. -/
def IsBare (code : Text) : Prop :=
  ∃ d : Declaration, ∃ subtype, d.Declares subtype ∧ d.rest = [] ∧ d.text = code

private theorem Declares.isBare_iff (hd : d.Declares subtype) : IsBare d.text ↔ d.rest = [] := by
  constructor
  · rintro ⟨d', subtype', hd', hrest, htext⟩
    obtain ⟨rfl, -⟩ := hd'.unique hd htext
    exact hrest
  · exact fun hrest => ⟨d, subtype, hd, hrest, rfl⟩

end Declaration

private theorem Language.classify_append_of_ne_js {l : Language} (hl : l ∈ Language.web)
    (hne : l ≠ .js) {code : Text} (hmode : (l.classify code).mode = .define) (more : Text) :
    l.classify (code ++ more) = l.classify code := by
  simp only [Language.web, List.mem_cons, List.not_mem_nil, or_false] at hl
  rcases hl with rfl | rfl | rfl | rfl
  · exact OpeningTag.classify_append OpeningTag.html_mem_definitionTags hmode more
  · rfl
  · exact OpeningTag.classify_append OpeningTag.svg_mem_definitionTags hmode more
  · exact absurd rfl hne

/-- A fragment of a web language is judged by its beginning alone. Blanks ahead of it do not change
its verdict, and no text behind a definition changes that it is one, or its subtype. In markup,
graphics and styling nothing of the verdict changes, nor in a script unless the text ends with the
declared name, which then goes on with the word characters that follow. -/
theorem verdict_from_beginning {l : Language} (hl : l ∈ Language.web) :
    (∀ lead code : Text, (∀ c ∈ lead, c.isBlank) →
      l.classifyValue (.text (lead ++ code)) = l.classifyValue (.text code)) ∧
    ∀ (code more : Text) (v : Classification),
      l.classifyValue (.text code) = .ok v → v.mode = .define →
        ∃ v', l.classifyValue (.text (code ++ more)) = .ok v' ∧ v'.mode = .define ∧
          v'.subtype = v.subtype ∧
          (¬ (l = .js ∧ Declaration.IsBare code) → v' = v) ∧
          (l = .js → Declaration.IsBare code → ∃ name, v.definitionName = some name ∧
            v'.definitionName = some (name ++ more.takeWhile isWord)) := by
  have hvalue (code : Text) := Language.classifyValue_web hl code
  constructor
  · intro lead code hlead
    exact Language.classifyBy_behind (Language.skipsBlanks_web hl) hlead _ _ code
  · intro code more v hv hmode
    rw [hvalue, Except.ok.injEq] at hv
    subst hv
    refine ⟨l.classify (code ++ more), hvalue _, ?_⟩
    by_cases hjs : l = .js
    · subst hjs
      obtain ⟨d, subtype, hd, rfl⟩ := Declaration.exists_declares_of_define hmode
      rw [← d.text_append more, Declaration.classify_of_declares (hd.append more),
        Declaration.classify_of_declares hd]
      refine ⟨rfl, rfl, fun hnot => ?_, fun _ hbare => ⟨d.name, rfl, ?_⟩⟩
      · have hrest : d.rest ≠ [] := fun hrest => hnot ⟨rfl, hd.isBare_iff.mpr hrest⟩
        simp [Declaration.append, hrest]
      · simp [Declaration.append, hd.isBare_iff.mp hbare]
    · have hsame := Language.classify_append_of_ne_js hl hjs hmode more
      rw [hsame]
      exact ⟨hmode, rfl, fun _ => rfl, fun h => absurd h hjs⟩

/-- A declared name goes on with letters from beyond ASCII and stops at a blank, also with blanks of
two kinds ahead of it; a template stays what it is. -/
theorem verdict_from_beginning_continued :
    let code : Text := "let gr"
    let lead : Text := "\n\u2003"
    let v : Classification := ⟨.define, some "variable", some "gr"⟩
    let template : Classification := ⟨.define, some "template", none⟩
    Language.js ∈ Language.web ∧ (∀ c ∈ lead, c.isBlank) ∧
    Language.js.classifyValue (.text code) = .ok v ∧ v.mode = .define ∧ Declaration.IsBare code ∧
    Language.js.classifyValue (.text (lead ++ code)) = .ok v ∧
    (∃ v', Language.js.classifyValue (.text (code ++ "öße = 1")) = .ok v' ∧ v'.mode = .define ∧
      v'.subtype = some "variable" ∧ v'.definitionName = some "größe") ∧
    Language.html ∈ Language.web ∧
    Language.html.classifyValue (.text "<TEMPLATE\n>") = .ok template ∧
    ¬ (Language.html = .js ∧ Declaration.IsBare "<TEMPLATE\n>") ∧
    Language.html.classifyValue (.text ("<TEMPLATE\n>" ++ "<p>")) = .ok template := by
  intro code lead v template
  have hjs := Language.js_mem_web
  have hhtml := Language.html_mem_web
  have hlead : ∀ c ∈ lead, c.isBlank := by decide
  have hv : Language.js.classifyValue (.text code) = .ok v := by decide +kernel
  have htemplate : Language.html.classifyValue (.text "<TEMPLATE\n>") = .ok template := by
    decide +kernel
  have hbare : Declaration.IsBare code :=
    ⟨⟨[], "let", " ", "gr", []⟩, "variable", ⟨⟨by decide, by decide, by decide, by decide,
      by decide +kernel, by decide⟩, by decide⟩, rfl, rfl⟩
  have hother : ¬ (Language.html = .js ∧ Declaration.IsBare "<TEMPLATE\n>") :=
    fun h => absurd h.1 (Language.ne_of_tag_ne (by decide))
  obtain ⟨hahead, hbehind⟩ := verdict_from_beginning hjs
  obtain ⟨v', hv', hmode, hsubtype, -, hname⟩ := hbehind code "öße = 1" v hv rfl
  obtain ⟨name, hgr, hname⟩ := hname rfl hbare
  obtain ⟨-, htemplates⟩ := verdict_from_beginning hhtml
  obtain ⟨_, hsame, -, -, heq, -⟩ := htemplates "<TEMPLATE\n>" "<p>" template htemplate rfl
  refine ⟨hjs, hlead, hv, rfl, hbare, (hahead lead code hlead).trans hv,
    ⟨v', hv', hmode, hsubtype, ?_⟩, hhtml, htemplate, hother, ?_⟩
  · cases hgr
    rw [hname]
    decide +kernel
  · rw [hsame, heq hother]

end SceneBook
