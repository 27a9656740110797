import SceneBook.Proofs.Language.Declarations
import SceneBook.Proofs.Registry.Classification
import SceneBook.Proofs.Settings.Names

/-!
# Declared identifiers

Two notions of a name meet in scripts. Settings take an ASCII letter, an underscore or a dollar sign
for the start of an identifier, while the name that a declaration is read with is a run of word
characters, of which the dollar sign is none. So a declared identifier is captured up to its first
dollar sign, and one that starts with a dollar sign does not declare anything.
-/

namespace SceneBook

open CodePoint (isBlank isWord)
open Settings (isIdentifier isIdentifierPart)

def CodePoint.dollar : CodePoint := .scalar '$'

open CodePoint (dollar)

/-- Whether the character would go on with an identifier that it follows. -/
def CodePoint.continuesIdentifier (c : CodePoint) : Bool := c.isWord || c = dollar

namespace Text

def beforeDollar (x : Text) : Text := x.takeWhile fun c => c ≠ dollar

def fromDollar (x : Text) : Text := x.dropWhile fun c => c ≠ dollar

end Text

private theorem isWord_of_isIdentifierPart {c : CodePoint} (h : isIdentifierPart c)
    (hc : c ≠ dollar) :
    c.isWord := by
  have halphabet : ∀ c ∈ Settings.letters ++ Settings.digits ++ "_$", c ≠ dollar → c.isWord := by
    decide +kernel
  exact halphabet c (Settings.isIdentifierPart_iff.mp h) hc

private theorem isIdentifierPart_of_mem {x : Text} (hx : isIdentifier x) :
    ∀ c ∈ x, isIdentifierPart c := by
  cases x with
  | nil => cases hx
  | cons c rest =>
    obtain ⟨hc, hrest⟩ := Bool.and_eq_true_iff.mp hx
    refine List.forall_mem_cons.mpr ⟨?_, fun a ha => List.all_eq_true.mp hrest a ha⟩
    simp [isIdentifierPart, hc]

namespace Declaration

/-- The text declares an identifier: nothing goes on with it, not even a dollar sign. -/
structure DeclaresIdentifier (d : Declaration) (subtype : Text) : Prop where
  lead : ∀ c ∈ d.lead, c.isBlank
  keyword : (d.keyword, subtype) ∈ declarationKeywords
  gap_ne : d.gap ≠ []
  gap : ∀ c ∈ d.gap, c.isBlank
  name : isIdentifier d.name
  rest : Text.Stops CodePoint.continuesIdentifier d.rest

/-- The declaration that is read where one of an identifier stands. -/
def upToDollar (d : Declaration) : Declaration :=
  { d with name := d.name.beforeDollar, rest := d.name.fromDollar ++ d.rest }

variable {d : Declaration} {subtype : Text}

private theorem text_upToDollar (d : Declaration) : d.upToDollar.text = d.text := by
  simp only [upToDollar, text, Text.beforeDollar, Text.fromDollar, ← List.append_assoc,
    List.takeWhile_append_dropWhile]

private theorem beforeDollar_ne_nil {x : Text} (hx : isIdentifier x)
    (hhead : x.head? ≠ some dollar) :
    x.beforeDollar ≠ [] := by
  cases x with
  | nil => cases hx
  | cons c rest =>
    have hc : c ≠ dollar := fun heq => hhead (congrArg some heq)
    simp [Text.beforeDollar, hc]

private theorem stops_fromDollar {x rest : Text}
    (hrest : Text.Stops CodePoint.continuesIdentifier rest) :
    Text.Stops isWord (x.fromDollar ++ rest) := by
  cases hx : x.fromDollar with
  | nil =>
    intro c hc
    have hstop := hrest c hc
    exact (Bool.or_eq_false_iff.mp hstop).1
  | cons c cs =>
    have hc : c = dollar := by
      have hhead : x.fromDollar.head? = some c := by rw [hx, List.head?_cons]
      have hstop := Text.stops_dropWhile (fun c => decide (c ≠ dollar)) x c hhead
      simpa using hstop
    subst hc
    exact Text.stops_cons.mpr (by decide +kernel)

private theorem DeclaresIdentifier.declares (hd : d.DeclaresIdentifier subtype)
    (hhead : d.name.head? ≠ some dollar) : d.upToDollar.Declares subtype := by
  refine ⟨⟨hd.lead, hd.gap_ne, hd.gap, beforeDollar_ne_nil hd.name hhead, ?_,
    stops_fromDollar hd.rest⟩, hd.keyword⟩
  intro c hc
  have hmem : c ∈ d.name := (List.takeWhile_sublist _).mem hc
  have hne : c ≠ dollar := by simpa using List.mem_takeWhile_imp hc
  exact isWord_of_isIdentifierPart (isIdentifierPart_of_mem hd.name c hmem) hne

private theorem name_cut (hlead : ∀ c ∈ d.lead, c.isBlank)
    (hkeyword : (d.keyword, subtype) ∈ declarationKeywords) (hgap_ne : d.gap ≠ [])
    (hgap : ∀ c ∈ d.gap, c.isBlank)
    (hstops : Text.Stops isBlank (d.name ++ d.rest)) :
    (cut d.text).name = (d.name ++ d.rest).takeWhile isWord := by
  have hword := keyword_isWord _ hkeyword
  have hblank : Text.Stops isBlank d.keyword :=
    Text.stops_of_forall fun c hc => not_isBlank_of_isWord (hword c hc)
  have hstart := stops_keyword (d := d) (keyword_ne_nil _ hkeyword) hblank
  have hend := stops_gap hgap_ne hgap
  simp only [cut, text, Text.dropWhile_run hlead hstart, Text.dropWhile_run hword hend,
    Text.dropWhile_run hgap hstops]

private theorem DeclaresIdentifier.not_declares (hd : d.DeclaresIdentifier subtype)
    (hhead : d.name.head? = some dollar) :
    ¬ ∃ d' : Declaration, ∃ s, d'.Declares s ∧ d'.text = d.text := by
  rintro ⟨d', s, hd', htext⟩
  obtain ⟨rest, hname⟩ := List.head?_eq_some_iff.mp hhead
  have hstops : Text.Stops isBlank (d.name ++ d.rest) := by
    rw [hname]
    exact Text.stops_cons.mpr (by decide)
  have hcut : d' = cut d.text := by
    rw [hd'.eq_cut (keyword_ne_nil _ hd'.keyword) (keyword_isWord _ hd'.keyword), htext]
  refine hd'.name_ne ?_
  rw [hcut, name_cut hd.lead hd.keyword hd.gap_ne hd.gap hstops, hname]
  exact Text.takeWhile_eq_nil (Text.stops_cons.mpr (by decide +kernel))

private theorem DeclaresIdentifier.classify (hd : d.DeclaresIdentifier subtype) :
    Language.js.classify d.text = if d.name.head? = some dollar then .eval
      else ⟨.define, some subtype, some d.name.beforeDollar⟩ := by
  split
  · next hhead => exact classify_of_not_declares (hd.not_declares hhead)
  · next hhead => rw [← text_upToDollar, classify_of_declares (hd.declares hhead)]; rfl

private theorem beforeDollar_eq_self_iff {x : Text} : x.beforeDollar = x ↔ dollar ∉ x := by
  simp only [Text.beforeDollar, List.takeWhile_eq_self_iff, decide_eq_true_eq]
  exact ⟨fun h hmem => h dollar hmem rfl, fun h c hc heq => h (heq ▸ hc)⟩

/-- A declared identifier is captured up to its first dollar sign, so that it is captured whole
exactly if it has none. Unless it starts with one, the text is a definition with the subtype of its
keyword and is hoisted out of its scene, and else it is an evaluation and stays there. -/
theorem identifier_captured_iff (hd : d.DeclaresIdentifier subtype) :
    Language.js.classifyValue (.text d.text) = .ok (if d.name.head? = some dollar then .eval
      else ⟨.define, some subtype, some d.name.beforeDollar⟩) ∧
    (Language.js.classifyValue (.text d.text) = .ok ⟨.define, some subtype, some d.name⟩ ↔
      dollar ∉ d.name) ∧
    ∀ (s : Settings) (w : Workbook), ∃ classified,
      (Registry.web s).classifyWorkbook? true w = .ok classified ∧
      ∀ sc ∈ w.scenes, ∀ f ∈ sc.fragments, f.language = Language.js.tag → f.code = d.text →
        let e := classified.extract Language.js.tag
        ⟨sc.index, f.attrs, d.text, Language.js.classify d.text⟩ ∈
          if d.name.head? = some dollar then e.scenes else e.definitions := by
  have hjs := Language.js_mem_web
  have hverdict := hd.classify
  refine ⟨?_, ?_, fun s w => ?_⟩
  · rw [Language.classifyValue_web hjs, hverdict]
  · rw [Language.classifyValue_web hjs, hverdict, Except.ok.injEq]
    by_cases hhead : d.name.head? = some dollar
    · have hmem : dollar ∈ d.name := List.mem_of_head? hhead
      rw [if_pos hhead]
      exact iff_of_false (by simp [Classification.eval]) (not_not.mpr hmem)
    · rw [if_neg hhead, ← beforeDollar_eq_self_iff]
      simp
  · refine ⟨_, Registry.classifyWorkbook?_eq_ok true (Registry.web_answers s) w, ?_⟩
    intro sc hsc f hf hlanguage hcode e
    have hmem := Registry.mem_extract_classified_web s hjs hsc hf hlanguage
    rw [hcode] at hmem
    by_cases hhead : d.name.head? = some dollar
    · simpa [hverdict, hhead, Classification.isDefinition, Classification.eval] using hmem
    · simpa [hverdict, hhead, Classification.isDefinition] using hmem

/-- A dollar sign inside an identifier cuts its name short, and an underscore does not. -/
theorem identifier_captured_partly :
    let cut : Declaration := ⟨"\n", "const", " ", "el$1", "= 2"⟩
    let whole : Declaration := ⟨[], "var", "\t", "_9", []⟩
    cut.DeclaresIdentifier "constant" ∧
    Language.js.classifyValue (.text cut.text) = .ok ⟨.define, some "constant", some "el"⟩ ∧
    whole.DeclaresIdentifier "variable" ∧
    Language.js.classifyValue (.text whole.text) = .ok ⟨.define, some "variable", some "_9"⟩ := by
  intro cut whole
  have hcut : cut.DeclaresIdentifier "constant" :=
    ⟨by decide, by decide, by decide, by decide, by decide, by decide +kernel⟩
  have hwhole : whole.DeclaresIdentifier "variable" :=
    ⟨by decide, by decide, by decide, by decide, by decide, by decide +kernel⟩
  obtain ⟨hverdict, -⟩ := identifier_captured_iff hcut
  obtain ⟨-, hname, -⟩ := identifier_captured_iff hwhole
  exact ⟨hcut, hverdict, hwhole, hname.mpr (by decide)⟩

/-- A variable whose name starts with a dollar sign is declared for its own scene alone. -/
theorem dollar_not_captured :
    let d : Declaration := ⟨[], "let", " ", "$el", " = 1"⟩
    d.DeclaresIdentifier "variable" ∧ Language.js.classifyValue (.text d.text) = .ok .eval ∧
    Language.js.classifyValue (.text d.text) ≠ .ok ⟨.define, some "variable", some "$el"⟩ := by
  intro d
  have hd : d.DeclaresIdentifier "variable" :=
    ⟨by decide, by decide, by decide, by decide, by decide, by decide +kernel⟩
  have heval : Language.js.classifyValue (.text d.text) = .ok .eval := by decide +kernel
  refine ⟨hd, heval, ?_⟩
  rw [heval]
  decide

end Declaration

end SceneBook
