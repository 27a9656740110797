import SceneBook.Language.Web
import SceneBook.Proofs.Language.Rows
import SceneBook.Proofs.Text.Runs
import Mathlib.Data.List.Forall2

/-!
# Opening tags

A fragment of markup or graphics is a definition when it begins with the opening tag of a
container for definitions. The name of the tag is compared ignoring case and ends at a blank, a
slash or the end of the tag, and nothing after that end has a say.
-/

namespace SceneBook

open CodePoint (isBlank)

/-- What may be written for a lower-case letter ignoring case: the letter, its capital, or the long
s for an s. -/
inductive SameLetter : Char → CodePoint → Prop
  | lower (a : Char) : SameLetter a (.scalar a)
  | upper (a : Char) : SameLetter a (.scalar a.toUpper)
  | longS : SameLetter 's' (.scalar '\u017F')

/-- A text in the parts that an opening tag has: blanks, the name after the angle, what follows the
name in the tag, and what follows the tag. -/
structure OpeningTag where
  lead : Text
  name : Text
  body : Text
  rest : Text

namespace OpeningTag

def text (t : OpeningTag) : Text :=
  t.lead ++ .scalar '<' :: (t.name ++ (t.body ++ .scalar '>' :: t.rest))

def capture (t : OpeningTag) : Capture := ⟨t.lead ++ "<" ++ t.name ++ t.body ++ ">", t.name⟩

/-- The name aside, the parts are what they should be, and the name ends where they say. -/
structure WellFormed (t : OpeningTag) : Prop where
  lead : ∀ c ∈ t.lead, c.isBlank
  body : .scalar '>' ∉ t.body
  ends : ∃ c ∈ (t.body ++ ">" : Text).head?, c.isBlank ∨ c = .scalar '/' ∨ c = .scalar '>'

structure Opens (names : List String) (t : OpeningTag) : Prop extends WellFormed t where
  name : ∃ n ∈ names, List.Forall₂ SameLetter n.toList t.name

end OpeningTag

/-- The languages that tell definitions by their tags, with the names of these. -/
def definitionTags : List (Language × List String) :=
  [(.html, ["template"]), (.svg, ["defs", "symbol"])]

theorem isLower_iff {a : Char} : a.isLower ↔ 97 ≤ a.toNat ∧ a.toNat ≤ 122 := by
  change (decide ('a'.val ≤ a.val) && decide (a.val ≤ 'z'.val)) = true ↔ _
  simp [UInt32.le_iff_toNat_le, ← Char.toNat_val]

theorem toNat_toUpper {a : Char} (ha : a.isLower) : a.toUpper.toNat + 32 = a.toNat := by
  obtain ⟨hlo, hhi⟩ := isLower_iff.mp ha
  have hval : 'a'.val ≤ a.val ∧ a.val ≤ 'z'.val := by
    simpa [UInt32.le_iff_toNat_le, ← Char.toNat_val] using And.intro hlo hhi
  have hshift : (('A'.val - 'a'.val : UInt32)).toNat = 2 ^ 32 - 32 := rfl
  delta Char.toUpper
  rw [dif_pos hval]
  change (a.val + ('A'.val - 'a'.val)).toNat + 32 = a.val.toNat
  rw [UInt32.toNat_add, hshift]
  change 97 ≤ a.val.toNat at hlo
  have := a.val.toNat_lt
  omega

private theorem isCaseOf_iff {a : Char} (ha : a.isLower) (c : CodePoint) :
    Opening.isCaseOf (.scalar a) c ↔ SameLetter a c := by
  have hupper := toNat_toUpper ha
  have hrange := isLower_iff.mp ha
  have hcases : Opening.isCaseOf (.scalar a) c ↔
      c = .scalar a ∨ c.code + 32 = a.toNat ∨ (a = 's' ∧ c = .scalar '\u017F') := by
    simp only [Opening.isCaseOf, Bool.or_eq_true, decide_eq_true_eq, Bool.and_eq_true, or_assoc,
      CodePoint.scalar.injEq]
    rfl
  rw [hcases]
  constructor
  · rintro (rfl | hcapital | ⟨rfl, rfl⟩)
    · exact .lower a
    · cases c with
      | scalar b =>
        change b.toNat + 32 = a.toNat at hcapital
        have heq : b = a.toUpper := Char.toNat_inj.mp (by omega)
        subst heq
        exact .upper a
      | surrogate s =>
        -- A surrogate lies beyond all letters.
        change s.code + 32 = a.toNat at hcapital
        have := s.inRange
        omega
    · exact .longS
  · rintro (_ | _ | _)
    · exact .inl rfl
    · exact .inr (.inl hupper)
    · exact .inr (.inr ⟨rfl, rfl⟩)

private theorem SameLetter.endsName {a : Char} {c : CodePoint} (ha : a.isLower)
    (h : SameLetter a c) :
    Opening.endsName c = false := by
  have hupper := toNat_toUpper ha
  have hrange := isLower_iff.mp ha
  have hletter {b : Char} (hb : 65 ≤ b.toNat ∧ b.toNat ≤ 122) :
      Opening.endsName (.scalar b) = false := by
    have hblank : isBlank (.scalar b) = false := by
      by_contra hblank
      obtain ⟨r, hr, hin⟩ := Text.mem_of_inRanges ((Bool.not_eq_false _).mp hblank)
      have hapart : ∀ r ∈ blankRanges, r.2 < 65 ∨ 122 < r.1 := by decide
      have hapart := hapart r hr
      change r.1 ≤ b.toNat ∧ b.toNat ≤ r.2 at hin
      omega
    have hslash : b ≠ '/' := by
      rintro rfl
      exact absurd hb (by decide)
    have hangle : b ≠ '>' := by
      rintro rfl
      exact absurd hb (by decide)
    simp [Opening.endsName, hblank, hslash, hangle]
  cases h with
  | lower => exact hletter ⟨by omega, by omega⟩
  | upper => exact hletter ⟨by omega, by omega⟩
  | longS => decide

private theorem takeName?_append {letters : List Char} (hlower : ∀ a ∈ letters, a.isLower)
    {written : Text} (h : List.Forall₂ SameLetter letters written) (rest : Text) :
    Opening.takeName? (Text.ofChars letters) (written ++ rest) = some (written, rest) := by
  induction h with
  | nil => rfl
  | @cons a c _ cs hcase _ ih =>
    have hrest := ih fun b hb => hlower b (List.mem_cons_of_mem a hb)
    have hread := (isCaseOf_iff (hlower a List.mem_cons_self) c).mpr hcase
    change (if Opening.isCaseOf (.scalar a) c then _ else none) = _
    rw [if_pos hread]
    exact congrArg (Option.map _) hrest

/-- A name is taken from a text exactly where its letters are written, in whatever case. -/
theorem takeName?_eq_some_iff {letters : List Char} (hlower : ∀ a ∈ letters, a.isLower)
    {t written rest : Text} :
    Opening.takeName? (Text.ofChars letters) t = some (written, rest) ↔
      t = written ++ rest ∧ List.Forall₂ SameLetter letters written := by
  refine ⟨fun h => ?_, fun ⟨htext, h⟩ => htext ▸ takeName?_append hlower h rest⟩
  induction letters generalizing t written with
  | nil =>
    cases h
    exact ⟨rfl, .nil⟩
  | cons a as ih =>
    cases t with
    | nil => cases h
    | cons c cs =>
      change (if Opening.isCaseOf (.scalar a) c then _ else none) = _ at h
      split at h
      · next hcase =>
        obtain ⟨⟨w, r⟩, hrest, heq⟩ := Option.map_eq_some_iff.mp h
        cases heq
        obtain ⟨rfl, hforall⟩ := ih (fun b hb => hlower b (List.mem_cons_of_mem a hb)) hrest
        exact ⟨rfl, .cons ((isCaseOf_iff (hlower a List.mem_cons_self) c).mp hcase) hforall⟩
      · cases h

namespace OpeningTag

variable {t t' : OpeningTag} {names : List String} {code : Text}

def cut (code : Text) : OpeningTag :=
  let inner := (code.dropWhile isBlank).tail
  let afterName := inner.dropWhile fun c => !Opening.endsName c
  ⟨code.takeWhile isBlank, inner.takeWhile fun c => !Opening.endsName c,
    afterName.takeWhile (· ≠ .scalar '>'), (afterName.dropWhile (· ≠ .scalar '>')).tail⟩

private theorem stops_angle (inner : Text) : Text.Stops isBlank (.scalar '<' :: inner) :=
  Text.stops_cons.mpr (by decide)

private theorem stops_close (rest : Text) :
    Text.Stops (fun c => decide (c ≠ .scalar '>')) (.scalar '>' :: rest) :=
  Text.stops_cons.mpr (by decide)

private theorem WellFormed.body_ne (ht : t.WellFormed) :
    ∀ c ∈ t.body, decide (c ≠ .scalar '>') := by
  intro c hc
  rw [decide_eq_true_iff]
  rintro rfl
  exact ht.body hc

private theorem head?_body (t : OpeningTag) (rest : Text) :
    (t.body ++ .scalar '>' :: rest).head? = (t.body ++ ">" : Text).head? := by
  cases t.body <;> rfl

theorem ends_iff (t : OpeningTag) :
    (∃ c ∈ (t.body ++ ">" : Text).head?, c.isBlank ∨ c = .scalar '/' ∨ c = .scalar '>') ↔
      (t.body ++ .scalar '>' :: t.rest).head?.any Opening.endsName := by
  rw [head?_body]
  cases (t.body ++ ">" : Text).head? <;> simp [Opening.endsName, or_assoc]

private theorem WellFormed.stops_name (ht : t.WellFormed) :
    Text.Stops (fun c => !Opening.endsName c) (t.body ++ .scalar '>' :: t.rest) := by
  intro c hc
  have hends := (ends_iff t).mp ht.ends
  rw [hc] at hends
  simpa using hends

private theorem not_endsName {letters : List Char} (hlower : ∀ a ∈ letters, a.isLower) {name : Text}
    (h : List.Forall₂ SameLetter letters name) : ∀ c ∈ name, !Opening.endsName c := by
  induction h with
  | nil => simp
  | @cons a c _ _ hcase _ ih =>
    intro other hother
    rcases List.mem_cons.mp hother with rfl | hother
    · simp [hcase.endsName (hlower a List.mem_cons_self)]
    · exact ih (fun b hb => hlower b (List.mem_cons_of_mem a hb)) other hother

private theorem WellFormed.eq_cut (ht : t.WellFormed) (hname : ∀ c ∈ t.name, !Opening.endsName c) :
    t = cut t.text := by
  have hangle := stops_angle (t.name ++ (t.body ++ .scalar '>' :: t.rest))
  simp only [cut, text, Text.takeWhile_run ht.lead hangle, Text.dropWhile_run ht.lead hangle,
    List.tail_cons, Text.takeWhile_run hname ht.stops_name,
    Text.dropWhile_run hname ht.stops_name, Text.takeWhile_run ht.body_ne (stops_close t.rest),
    Text.dropWhile_run ht.body_ne (stops_close t.rest)]

/-- What is read of a tag with a name, given the blanks before its angle and what follows that. -/
def readNamed (lead inner name : Text) : Option Capture := do
  let (written, rest) ← Opening.takeName? name inner
  let body := rest.takeWhile fun c => c ≠ .scalar '>'
  let final ← (rest.drop body.length).head?
  if rest.head?.any Opening.endsName then
    some ⟨lead ++ [.scalar '<'] ++ written ++ body ++ [final], written⟩
  else none

theorem readTag_angle {lead : Text} (hlead : ∀ c ∈ lead, c.isBlank) (names : List Text)
    (inner : Text) :
    Opening.readTag names (lead ++ .scalar '<' :: inner) =
      names.findSome? (readNamed lead inner) := by
  have hangle := stops_angle inner
  simp only [Opening.readTag, Text.takeWhile_run hlead hangle, Text.dropWhile_run hlead hangle]
  rfl

private theorem angle_of_readTag {names : List Text} {c : Capture}
    (h : Opening.readTag names code = some c) :
    ∃ lead inner : Text, code = lead ++ .scalar '<' :: inner ∧ ∀ c ∈ lead, c.isBlank := by
  unfold Opening.readTag at h
  split at h
  · cases h
  · next angle inner hinner =>
    split at h
    · cases h
    · next hangle =>
      refine ⟨code.takeWhile isBlank, inner, ?_, fun _ => List.mem_takeWhile_imp⟩
      rw [← of_not_not hangle, ← hinner, List.takeWhile_append_dropWhile]

private theorem close_of_drop {rest : Text} {final : CodePoint}
    (h : (rest.drop (rest.takeWhile fun c => decide (c ≠ .scalar '>')).length).head? = some final) :
    final = .scalar '>' ∧ ∃ after : Text,
      rest = (rest.takeWhile fun c => decide (c ≠ .scalar '>')) ++ .scalar '>' :: after := by
  set body := rest.takeWhile fun c => decide (c ≠ .scalar '>')
  set tail := rest.dropWhile fun c => decide (c ≠ .scalar '>')
  have hcut : body ++ tail = rest := List.takeWhile_append_dropWhile
  have htail : tail.head? = some final := by
    rw [← h, ← hcut, List.drop_left]
  have hfinal : final = .scalar '>' := by
    simpa using Text.stops_dropWhile (fun c => decide (c ≠ .scalar '>')) rest final htail
  obtain ⟨after, hafter⟩ := List.head?_eq_some_iff.mp htail
  refine ⟨hfinal, after, ?_⟩
  rw [← hcut, hafter, hfinal]

private theorem readNamed_eq_some_iff {letters : List Char} (hlower : ∀ a ∈ letters, a.isLower)
    {lead inner : Text} (hlead : ∀ c ∈ lead, c.isBlank) {c : Capture} :
    readNamed lead inner (Text.ofChars letters) = some c ↔ ∃ t : OpeningTag, t.WellFormed ∧
      List.Forall₂ SameLetter letters t.name ∧ t.lead = lead ∧
        t.text = lead ++ .scalar '<' :: inner ∧ t.capture = c := by
  constructor
  · intro h
    obtain ⟨⟨written, rest⟩, hname, h⟩ := Option.bind_eq_some_iff.mp h
    obtain ⟨final, hfinal, h⟩ := Option.bind_eq_some_iff.mp h
    obtain ⟨rfl, hwritten⟩ := (takeName?_eq_some_iff hlower).mp hname
    obtain ⟨rfl, after, hrest⟩ := close_of_drop hfinal
    split at h
    · next hends =>
      cases h
      refine ⟨⟨lead, written, rest.takeWhile fun c => decide (c ≠ .scalar '>'), after⟩,
        ⟨hlead, fun hmem => ?_, ?_⟩, hwritten, rfl, ?_, rfl⟩
      · simpa using List.mem_takeWhile_imp hmem
      · rw [ends_iff, ← hrest]
        exact hends
      · simp only [text, ← hrest]
    · cases h
  · rintro ⟨t, ht, hname, rfl, htext, rfl⟩
    obtain rfl : t.name ++ (t.body ++ .scalar '>' :: t.rest) = inner := by
      simpa [text] using htext
    refine Option.bind_eq_some_iff.mpr ⟨(t.name, t.body ++ .scalar '>' :: t.rest),
      takeName?_append hlower hname _, ?_⟩
    simp only [Text.takeWhile_run ht.body_ne (stops_close t.rest), List.drop_left, List.head?_cons]
    exact if_pos ((ends_iff t).mp ht.ends)

theorem html_mem_definitionTags : (Language.html, ["template"]) ∈ definitionTags := .head _

theorem svg_mem_definitionTags : (Language.svg, ["defs", "symbol"]) ∈ definitionTags :=
  .tail _ (.head _)

theorem mem_definitionTags {l : Language} {names : List String} (h : (l, names) ∈ definitionTags) :
    (∀ n ∈ names, ∀ a ∈ n.toList, a.isLower) ∧
      l.rows = [Language.tagRow (names.map fun n => Text.ofChars n.toList)] ∧
      l.defaultMode = .eval ∧ l.lowercaseSubtype = true := by
  simp only [definitionTags, List.mem_cons, Prod.mk.injEq, List.not_mem_nil, or_false] at h
  rcases h with ⟨rfl, rfl⟩ | ⟨rfl, rfl⟩
  · exact ⟨by simp, rfl, rfl, rfl⟩
  · exact ⟨by simp, rfl, rfl, rfl⟩

theorem Opens.eq_cut (hlower : ∀ n ∈ names, ∀ a ∈ n.toList, a.isLower) (ht : t.Opens names) :
    t = cut t.text := by
  obtain ⟨n, hn, hname⟩ := ht.name
  exact ht.toWellFormed.eq_cut (not_endsName (hlower n hn) hname)

/-- The first name that reads a text gives the same capture as any other that does. -/
theorem readTag_eq_some_iff (hlower : ∀ n ∈ names, ∀ a ∈ n.toList, a.isLower) {c : Capture} :
    Opening.readTag (names.map fun n => Text.ofChars n.toList) code = some c ↔
      ∃ t : OpeningTag, t.Opens names ∧ t.text = code ∧ t.capture = c := by
  have hsound {c : Capture}
      (h : Opening.readTag (names.map fun n => Text.ofChars n.toList) code = some c) :
      ∃ t : OpeningTag, t.Opens names ∧ t.text = code ∧ t.capture = c := by
    obtain ⟨lead, inner, rfl, hlead⟩ := angle_of_readTag h
    rw [readTag_angle hlead] at h
    obtain ⟨_, hmem, hread⟩ := List.exists_of_findSome?_eq_some h
    obtain ⟨n, hn, rfl⟩ := List.mem_map.mp hmem
    obtain ⟨t, ht, hname, -, htext, hcapture⟩ :=
      (readNamed_eq_some_iff (hlower n hn) hlead).mp hread
    exact ⟨t, ⟨ht, n, hn, hname⟩, htext, hcapture⟩
  refine ⟨hsound, ?_⟩
  rintro ⟨t, ht, rfl, rfl⟩
  obtain ⟨n, hn, hname⟩ := ht.name
  have hread := (readNamed_eq_some_iff (hlower n hn) ht.lead).mpr
    ⟨t, ht.toWellFormed, hname, rfl, rfl, rfl⟩
  have hsome : (Opening.readTag (names.map fun n => Text.ofChars n.toList) t.text).isSome := by
    rw [text, readTag_angle ht.lead, List.findSome?_isSome_iff]
    exact ⟨_, List.mem_map_of_mem hn, Option.isSome_of_eq_some hread⟩
  obtain ⟨c, hc⟩ := Option.isSome_iff_exists.mp hsome
  obtain ⟨t', ht', htext, rfl⟩ := hsound hc
  have hsame : t' = t := by rw [ht'.eq_cut hlower, htext, ← ht.eq_cut hlower]
  exact hsame ▸ hc

variable {l : Language}

private theorem answers (h : (l, names) ∈ definitionTags) :
    ∀ row ∈ l.rows, row.Answers l.lowercaseSubtype := by
  rw [(mem_definitionTags h).2.1]
  simp [Row.answers_tagRow]

private theorem classify?_of_opens (h : (l, names) ∈ definitionTags) (ht : t.Opens names) :
    l.classify? t.text = .ok ⟨.define, some t.name.lower, none⟩ := by
  obtain ⟨hlower, hrows, -, hlowercase⟩ := mem_definitionTags h
  have hread : (Language.tagRow (names.map fun n => Text.ofChars n.toList)).opening t.text =
      some ⟨t.capture.whole, [some t.name]⟩ :=
    Option.map_eq_some_iff.mpr ⟨_, (readTag_eq_some_iff hlower).mpr ⟨t, ht, rfl, rfl⟩, rfl⟩
  rw [Language.classify?, hrows, hlowercase]
  exact Language.classifyBy_of_unique List.mem_cons_self hread fun r hr _ =>
    List.mem_singleton.mp hr

theorem classify_of_opens (h : (l, names) ∈ definitionTags) (ht : t.Opens names) :
    l.classify t.text = ⟨.define, some t.name.lower, none⟩ := by
  rw [Language.classify, classify?_of_opens h ht]

private theorem classify_of_not_opens (h : (l, names) ∈ definitionTags)
    (hnone : ¬ ∃ t : OpeningTag, t.Opens names ∧ t.text = code) : l.classify code = .eval := by
  obtain ⟨hlower, hrows, hmode, -⟩ := mem_definitionTags h
  have heval : l.classify? code = .ok .eval := by
    rw [Language.classify?, hrows, hmode]
    refine Language.classifyBy_of_not_reads fun r hr hread => hnone ?_
    rw [List.mem_singleton.mp hr] at hread
    obtain ⟨m, hm⟩ := Option.isSome_iff_exists.mp hread
    obtain ⟨c, hc, -⟩ := Option.map_eq_some_iff.mp hm
    obtain ⟨t, ht, htext, -⟩ := (readTag_eq_some_iff hlower).mp hc
    exact ⟨t, ht, htext⟩
  rw [Language.classify, heval]

theorem exists_opens_of_define (h : (l, names) ∈ definitionTags)
    (hmode : (l.classify code).mode = .define) :
    ∃ t : OpeningTag, t.Opens names ∧ t.text = code := by
  by_contra hnone
  rw [classify_of_not_opens h hnone] at hmode
  cases hmode

private theorem close_not_mem (hlower : ∀ n ∈ names, ∀ a ∈ n.toList, a.isLower)
    (ht : t.Opens names) :
    CodePoint.scalar '>' ∉ t.lead ++ .scalar '<' :: (t.name ++ t.body) := by
  obtain ⟨n, hn, hname⟩ := ht.name
  simp only [List.mem_append, List.mem_cons, not_or]
  refine ⟨fun hmem => absurd (ht.lead _ hmem) (by decide), by decide, fun hmem => ?_, ht.body⟩
  exact absurd (not_endsName (hlower n hn) hname _ hmem) (by decide)

private theorem Opens.replace_rest (hlower : ∀ n ∈ names, ∀ a ∈ n.toList, a.isLower)
    (ht : t.Opens names)
    {before after : Text} (htext : t.text = before ++ .scalar '>' :: after) (after' : Text) :
    ∃ t' : OpeningTag, t'.Opens names ∧ t'.name = t.name ∧
      t'.text = before ++ .scalar '>' :: after' := by
  have hsplit : (t.lead ++ .scalar '<' :: (t.name ++ t.body)) ++ .scalar '>' :: t.rest =
      before ++ .scalar '>' :: after := by
    rw [← htext, text]
    simp
  obtain ⟨rest, hrest⟩ := Text.append_cons_eq_of_not_mem (close_not_mem hlower ht) hsplit after'
  refine ⟨{ t with rest := rest }, ⟨⟨ht.lead, ht.body, ht.ends⟩, ht.name⟩, rfl, ?_⟩
  rw [hrest, text]
  simp

/-- A fragment of markup or graphics is a definition exactly if it begins with the opening tag of a
container for definitions, whose name in lower case is its subtype. What follows the first
character that could close the tag does not matter. -/
theorem tag_verdict_iff_opens (h : (l, names) ∈ definitionTags) (code : Text) :
    (∀ v, l.classifyValue (.text code) = .ok v ∧ v.mode = .define ↔
      ∃ t : OpeningTag, t.Opens names ∧ t.text = code ∧
        v = ⟨.define, some t.name.lower, none⟩) ∧
    (l.classifyValue (.text code) = .ok .eval ↔
      ¬ ∃ t : OpeningTag, t.Opens names ∧ t.text = code) ∧
    ∀ before after after' : Text,
      l.classifyValue (.text (before ++ .scalar '>' :: after)) =
        l.classifyValue (.text (before ++ .scalar '>' :: after')) := by
  have hvalue (code : Text) := Language.classifyValue_text (answers h) code
  have hlower := (mem_definitionTags h).1
  refine ⟨fun v => ?_, ?_, fun before after after' => ?_⟩
  · rw [hvalue]
    constructor
    · rintro ⟨hv, hmode⟩
      by_cases hopens : ∃ t : OpeningTag, t.Opens names ∧ t.text = code
      · obtain ⟨t, ht, rfl⟩ := hopens
        rw [classify_of_opens h ht] at hv
        cases hv
        exact ⟨t, ht, rfl, rfl⟩
      · rw [classify_of_not_opens h hopens] at hv
        cases hv
        cases hmode
    · rintro ⟨t, ht, rfl, rfl⟩
      exact ⟨congrArg Except.ok (classify_of_opens h ht), rfl⟩
  · rw [hvalue]
    constructor
    · rintro heval ⟨t, ht, rfl⟩
      rw [classify_of_opens h ht] at heval
      cases heval
    · exact fun hnone => congrArg Except.ok (classify_of_not_opens h hnone)
  · rw [hvalue, hvalue]
    congr 1
    by_cases hopens : ∃ t : OpeningTag, t.Opens names ∧ t.text = before ++ .scalar '>' :: after
    · obtain ⟨t, ht, htext⟩ := hopens
      obtain ⟨t', ht', hname, htext'⟩ := ht.replace_rest hlower htext after'
      rw [← htext, ← htext', classify_of_opens h ht, classify_of_opens h ht', hname]
    · have hopens' : ¬ ∃ t : OpeningTag, t.Opens names ∧
          t.text = before ++ .scalar '>' :: after' := by
        rintro ⟨t, ht, htext⟩
        obtain ⟨t', ht', -, htext'⟩ := ht.replace_rest hlower htext after
        exact hopens ⟨t', ht', htext'⟩
      rw [classify_of_not_opens h hopens, classify_of_not_opens h hopens']

/-- A symbol in mixed case and with the long s, over two lines and closed in itself. -/
theorem tag_verdict_long_s :
    let t : OpeningTag := ⟨"\t ", "\u017FyMboL", "\n id='<a'/", "<p>"⟩
    (Language.svg, ["defs", "symbol"]) ∈ definitionTags ∧ t.Opens ["defs", "symbol"] ∧
      Language.svg.classifyValue (.text t.text) =
        .ok ⟨.define, some "\u017Fymbol", none⟩ := by
  intro t
  have hmem := svg_mem_definitionTags
  have ht : t.Opens ["defs", "symbol"] := by
    refine ⟨⟨by decide, by decide, ⟨.scalar '\n', by decide, by decide⟩⟩, "symbol", by decide, ?_⟩
    exact .cons .longS (.cons (.lower 'y') (.cons (.upper 'm') (.cons (.lower 'b')
      (.cons (.lower 'o') (.cons (.upper 'l') .nil)))))
  have hlower : t.name.lower = "\u017Fymbol" := by decide +kernel
  obtain ⟨hdefine, -⟩ := tag_verdict_iff_opens hmem t.text
  refine ⟨hmem, ht, ((hdefine _).mpr ⟨t, ht, rfl, ?_⟩).1⟩
  rw [hlower]

end OpeningTag

end SceneBook
