import SceneBook.Proofs.Registry.History
import SceneBook.Proofs.Text.Similarity

/-!
# Suggestions

A tag that is not registered is looked up in vain, and the report then suggests the registered tag
that is most like it, if one is like it. That is never a tag that is no longer registered. A tag in
other letters is suggested in those it is registered in, whatever else is registered.
-/

namespace SceneBook

namespace Text

/-- What is assumed of a score: it is a hundred at most, which a text has with itself. -/
structure IsScore (score : Text → Text → Score) : Prop where
  le (t c : Text) : (score t c).bits ≤ Score.hundred.bits
  self {t : Text} (ht : t ≠ []) : score t t = Score.hundred

private theorem isScore_similarity : IsScore similarity := ⟨similarity_le, similarity_self⟩

/-- What is found among candidates: the first of those with the highest score, unless all of them
score less than the least one that counts. -/
inductive Closest (score : Text → Text → Score) (least : Score) (t : Text) (cs : List Text) :
    Option (Text × Score) → Prop
  | none : (∀ c ∈ cs, (score t c).bits < least.bits) → Closest score least t cs none
  | found (before : List Text) (c : Text) (after : List Text) : cs = before ++ c :: after →
    least.bits ≤ (score t c).bits →
    (∀ d ∈ before, (score t d).bits < (score t c).bits) →
    (∀ d ∈ after, (score t d).bits ≤ (score t c).bits) →
      Closest score least t cs (some (c, score t c))

variable {score : Text → Text → Score}

private theorem closest_closest? (score : Text → Text → Score) (least : Score) (t : Text)
    (cs : List Text) : Closest score least t cs (closest? score least t cs) := by
  induction cs with
  | nil => exact .none (by simp)
  | cons c rest ih =>
    simp only [closest?]
    generalize closest? score least t rest = best at ih ⊢
    cases ih with
    | none hrest =>
      dsimp only
      split
      · next hc => exact .none (List.forall_mem_cons.mpr ⟨hc, hrest⟩)
      · next hc =>
        have hleast := UInt64.not_lt.mp hc
        refine .found [] c rest rfl hleast (by simp) ?_
        intro d hd
        exact UInt64.le_trans (UInt64.le_of_lt (hrest d hd)) hleast
    | found before d after hsplit hleast hbefore hafter =>
      subst hsplit
      dsimp only
      split
      · next hc =>
        exact .found (c :: before) d after rfl hleast (List.forall_mem_cons.mpr ⟨hc, hbefore⟩)
          hafter
      · next hc =>
        have hd := UInt64.not_lt.mp hc
        refine .found [] c (before ++ d :: after) rfl (UInt64.le_trans hleast hd) (by simp) ?_
        intro other hother
        rcases List.mem_append.mp hother with hother | hother
        · exact UInt64.le_trans (UInt64.le_of_lt (hbefore other hother)) hd
        · rcases List.mem_cons.mp hother with rfl | hother
          · exact hd
          · exact UInt64.le_trans (hafter other hother) hd

private theorem mem_of_closest? {least s : Score} {t c : Text} {cs : List Text}
    (h : closest? score least t cs = some (c, s)) : c ∈ cs := by
  have hclosest := closest_closest? score least t cs
  rw [h] at hclosest
  cases hclosest with
  | found before c after hsplit => simp [hsplit]

private theorem closest?_self (hscore : IsScore score) {least : Score} {t : Text} {cs : List Text}
    (hleast : least.bits ≤ Score.hundred.bits) (hmem : t ∈ cs) (ht : t ≠ [])
    (hothers : ∀ c ∈ cs, score t c = Score.hundred → c = t) :
    closest? score least t cs = some (t, Score.hundred) := by
  have hself := hscore.self ht
  have hclosest := closest_closest? score least t cs
  generalize closest? score least t cs = best at hclosest ⊢
  cases hclosest with
  | none hnone =>
    have hlt := hnone t hmem
    rw [hself] at hlt
    exact absurd hlt (UInt64.not_lt.mpr hleast)
  | found before c after hsplit _ hbefore hafter =>
    have hhighest : Score.hundred.bits ≤ (score t c).bits := by
      rw [← hself]
      rw [hsplit, List.mem_append, List.mem_cons] at hmem
      rcases hmem with hmem | rfl | hmem
      · exact UInt64.le_of_lt (hbefore t hmem)
      · exact UInt64.le_refl _
      · exact hafter t hmem
    have hhundred : score t c = Score.hundred :=
      congrArg Double.mk (UInt64.le_antisymm (hscore.le t c) hhighest)
    rw [hothers c (by simp [hsplit]) hhundred, hself]

private theorem eq_of_similarity_eq_hundred {t c : Text} (hlength : t.length + c.length ≤ 2 ^ 53)
    (h : similarity t c = Score.hundred) : c = t := by
  by_contra hne
  have hlt := similarity_lt (Ne.symm hne) hlength
  rw [h] at hlt
  exact UInt64.lt_irrefl _ hlt

end Text

namespace Registry

variable {r : Registry} {score : Text → Text → Score} {tag t : Text}

private theorem mem_of_suggestBy (h : r.suggestBy score tag = some t) : t ∈ r.tags := by
  obtain ⟨⟨c, s⟩, hclosest, rfl⟩ := Option.map_eq_some_iff.mp h
  exact Text.mem_of_closest? hclosest

private theorem suggestBy_lower (hscore : Text.IsScore score) (hmem : tag.lower ∈ r.tags)
    (hne : tag.lower ≠ [])
    (hothers : ∀ t ∈ r.tags, score tag.lower t = Score.hundred → t = tag.lower) :
    r.suggestBy score tag = some tag.lower := by
  have hleast : (Double.ofRatio false 60 1).bits ≤ Score.hundred.bits := by decide +kernel
  rw [suggestBy, Text.closest?_self hscore hleast hmem hne hothers]
  rfl

private theorem getValueBy_unknown [Limits] (score : Text → Text → Score) (h : tag ∉ r.tags) :
    r.getValueBy score (.text tag) = .error (.report (.unknownLanguage (.text tag) r.known
      (((r.suggestBy score tag).map Value.text).getD .null))) := by
  have hget : r.getValueBy score (.text tag) = (r.getBy score tag).mapError .report := rfl
  rw [hget, getBy, find?_eq_none_iff.mpr h]
  rfl

/-- After any registrations and removals a tag is found exactly if it is registered then. If it is
not, the report lists the registered tags and suggests none or one of them. Where the tag in lower
case is registered, that is the one, unless another tag has a score of a hundred too. By similarity
none has, unless it is overlong. -/
theorem run_suggests_standing [Limits] (r : Registry) (calls : List Call) (tag : Text) :
    let held := standing (r.history calls)
    let tags := held.map Plugin.tag
    (∀ score : Text → Text → Score,
      let answer := (r.run calls).getValueBy score (.text tag)
      (∀ p, answer = .ok p ↔ p ∈ held ∧ p.tag = tag) ∧
      ((∃ e, answer = .error e) ↔ tag ∉ tags) ∧
      ∀ e, answer = .error e → ∃ suggestion : Option Text,
        e = .report (.unknownLanguage (.text tag) (tags.map .text)
          ((suggestion.map Value.text).getD .null)) ∧
        (∀ t, suggestion = some t → t ∈ tags) ∧
        (Text.IsScore score → tag.lower ∈ tags → tag.lower ≠ [] →
          (∀ t ∈ tags, score tag.lower t = Score.hundred → t = tag.lower) →
          suggestion = some tag.lower)) ∧
    (r.run calls).getValue (.text tag) = (r.run calls).getValueBy Text.similarity (.text tag) ∧
    Text.IsScore Text.similarity ∧
    ∀ t, tag.lower.length + t.length ≤ 2 ^ 53 →
      Text.similarity tag.lower t = Score.hundred → t = tag.lower := by
  intro held tags
  have hheld : (r.run calls).plugins = held := plugins_run r calls
  have htags : (r.run calls).tags = tags := by rw [Registry.tags, hheld]
  refine ⟨fun score => ?_, rfl, Text.isScore_similarity, fun t =>
    Text.eq_of_similarity_eq_hundred⟩
  intro answer
  have hfound (p : Plugin) : answer = .ok p ↔ p ∈ held ∧ p.tag = tag := by
    rw [getValueBy_eq_ok_iff, hheld]
    simp [eq_comm]
  have hunknown (h : tag ∉ tags) : answer = .error (.report (.unknownLanguage (.text tag)
      (tags.map .text) ((((r.run calls).suggestBy score tag).map Value.text).getD .null))) := by
    rw [← htags] at h ⊢
    exact getValueBy_unknown score h
  have hfails : (∃ e, answer = .error e) ↔ tag ∉ tags := by
    constructor
    · rintro ⟨e, he⟩ htag
      obtain ⟨p, hp⟩ := List.mem_map.mp htag
      have hok := (hfound p).mpr hp
      rw [he] at hok
      cases hok
    · intro h
      exact ⟨_, hunknown h⟩
  refine ⟨hfound, hfails, ?_⟩
  intro e he
  have hreport := hunknown (hfails.mp ⟨e, he⟩)
  rw [he] at hreport
  refine ⟨(r.run calls).suggestBy score tag, Except.error.inj hreport, ?_, ?_⟩
  · intro t ht
    rw [← htags]
    exact mem_of_suggestBy ht
  · rw [← htags]
    exact suggestBy_lower

/-- A tag that is the beginning of another one's. -/
def htmx : Plugin := ⟨{ Language.html with tag := "htmx" }, default⟩

/-- The tag in capitals is suggested in small letters, also after a tag that is like it. -/
theorem run_suggests_standing_capitals :
    let calls : List Call := [.register htmx, .register ⟨Language.css, default⟩,
      .register ⟨Language.html, default⟩, .unregister (.text "css")]
    (empty.run calls).getValue (.text "HTML") =
      .error (.report (.unknownLanguage (.text "HTML") [.text "htmx", .text "html"]
        (.text "html"))) := by
  intro calls
  have htags : (standing (empty.history calls)).map Plugin.tag = ["htmx", "html"] := by decide
  have hlower : Text.lower "HTML" = "html" := by decide
  obtain ⟨hall, hanswer, hscore, hequal⟩ := run_suggests_standing empty calls "HTML"
  obtain ⟨-, hfails, hreport⟩ := hall Text.similarity
  rw [htags, ← hanswer] at hfails
  rw [htags, ← hanswer] at hreport
  obtain ⟨e, he⟩ := hfails.mpr (by decide)
  obtain ⟨suggestion, rfl, -, hsuggests⟩ := hreport e he
  rw [hlower] at hsuggests
  have hshort : ∀ t ∈ (["htmx", "html"] : List Text),
      ("html" : Text).length + t.length ≤ 2 ^ 53 := by
    decide
  rw [hlower] at hequal
  rw [he, hsuggests hscore (by decide) (by decide) fun t ht => hequal t (hshort t ht)]
  rfl

end Registry

end SceneBook
