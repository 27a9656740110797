import SceneBook.Proofs.Registry.Tags
import SceneBook.Registry.Capabilities

/-!
# Registration of the web languages

The web languages are offered to a host in their order, and a host may forward what it is offered to
a registry. Then either all four are added to it or those before the first whose tag is taken, and
all that the registry has held stays.
-/

namespace SceneBook

/-- The callback of a host that keeps a registry does to it what the registry's own would do, and
fails as that one would. -/
def Callback.Forwards [Limits] {Host : Type} (forward : Callback Host) (held : Host → Registry) :
    Prop :=
  ∀ tag p host, (held (forward tag p host).1, (forward tag p host).2) =
    Registry.offer tag p (held host)

namespace Registry

variable {r : Registry} {p : Plugin}

theorem forwards_offer [Limits] : Callback.Forwards offer id := fun _ _ _ => rfl

private theorem offer_of_mem [Limits] (h : p.tag ∈ r.tags) :
    offer p.tag p r = (r, .error (.report (.alreadyRegistered (.text p.tag)))) := by
  rw [offer, provide_own, register_of_mem h]
  rfl

private theorem offer_of_not_mem [Limits] (h : p.tag ∉ r.tags) :
    offer p.tag p r = (⟨r.plugins ++ [p], tags_nodup_concat h⟩, .ok ()) := by
  rw [offer, provide_own, register_of_not_mem h]
  rfl

private theorem registerAll_of_taken {added rest : List Plugin}
    (hfree : ((r.plugins ++ added).map Plugin.tag).Nodup) (htaken : p.tag ∈ r.tags) :
    ∃ joined, r.registerAll (added ++ p :: rest) =
        (joined, .error (.alreadyRegistered (.text p.tag))) ∧
      joined.plugins = r.plugins ++ added := by
  induction added generalizing r with
  | nil =>
    refine ⟨r, ?_, by simp⟩
    rw [List.nil_append, registerAll, register_of_mem htaken]
  | cons q later ih =>
    have hq := not_mem_tags_of_nodup hfree
    have hstill : p.tag ∈ Registry.tags ⟨r.plugins ++ [q], tags_nodup_concat hq⟩ := by
      rw [tags, List.map_append]
      exact List.mem_append_left _ htaken
    obtain ⟨joined, hjoined, hplugins⟩ := ih (by simpa using hfree) hstill
    refine ⟨joined, ?_, by simpa using hplugins⟩
    rw [List.cons_append, registerAll, register_of_not_mem hq]
    simp only [hjoined]
    rfl

private theorem nodup_append_of_free {ps : List Plugin} (hps : (ps.map Plugin.tag).Nodup)
    (hfree : ∀ q ∈ ps, q.tag ∉ r.tags) : ((r.plugins ++ ps).map Plugin.tag).Nodup := by
  rw [List.map_append, List.nodup_append]
  refine ⟨r.tags_nodup, hps, fun a ha b hb heq => ?_⟩
  obtain ⟨q, hq, rfl⟩ := List.mem_map.mp hb
  exact hfree q hq (heq ▸ ha)

/-- All of some plugins with different tags are added, or those before the first whose tag is
taken. -/
theorem registerAll_cases (r : Registry) {ps : List Plugin} (hps : (ps.map Plugin.tag).Nodup) :
    ((∀ q ∈ ps, q.tag ∉ r.tags) ∧ ∃ joined, r.registerAll ps = (joined, .ok (ps.map Plugin.tag)) ∧
      joined.plugins = r.plugins ++ ps) ∨
    ∃ added taken rest, ps = added ++ taken :: rest ∧ (∀ q ∈ added, q.tag ∉ r.tags) ∧
      taken.tag ∈ r.tags ∧ ∃ joined,
        r.registerAll ps = (joined, .error (.alreadyRegistered (.text taken.tag))) ∧
        joined.plugins = r.plugins ++ added := by
  by_cases hall : ∀ q ∈ ps, q.tag ∉ r.tags
  · exact .inl ⟨hall, registerAll_of_nodup (nodup_append_of_free hps hall)⟩
  · obtain ⟨added, taken, rest, rfl, hfree, htaken⟩ := exists_first hall
    rw [List.map_append] at hps
    have hadded := nodup_append_of_free (List.nodup_append.mp hps).1 hfree
    have htaken := Decidable.not_not.mp htaken
    exact .inr ⟨added, taken, rest, rfl, hfree, htaken, registerAll_of_taken hadded htaken⟩

/-- Offering plugins to a host that forwards them registers them one after the other. -/
theorem offerEach_eq_registerAll [Limits] {Host : Type} {forward : Callback Host}
    {held : Host → Registry}
    (h : forward.Forwards held) (ps : List Plugin) (host : Host) :
    let offered := Capabilities.offerEach forward host ps
    let registered := (held host).registerAll ps
    held offered.1 = registered.1 ∧ offered.2 = registered.2.mapError .report := by
  induction ps generalizing host with
  | nil => exact ⟨rfl, rfl⟩
  | cons p rest ih =>
    have hstep := h p.tag p host
    cases hforward : forward p.tag p host with
    | mk host' answer =>
      rw [hforward] at hstep
      by_cases hp : p.tag ∈ (held host).tags
      · rw [offer_of_mem hp] at hstep
        obtain ⟨hheld, rfl⟩ := Prod.mk.inj hstep
        simp only [Capabilities.offerEach, hforward, registerAll, register_of_mem hp]
        exact ⟨hheld, rfl⟩
      · rw [offer_of_not_mem hp] at hstep
        obtain ⟨hheld, rfl⟩ := Prod.mk.inj hstep
        obtain ⟨hfinal, htags⟩ := ih host'
        rw [hheld] at hfinal htags
        simp only [Capabilities.offerEach, hforward, registerAll, register_of_not_mem hp]
        refine ⟨hfinal, ?_⟩
        rw [htags]
        cases (registerAll ⟨(held host).plugins ++ [p], tags_nodup_concat hp⟩ rest).2 <;> rfl

/-- Through a host that forwards to a registry, all web languages are registered if none of their
tags is taken, after what the registry holds and in their order. Otherwise the first tag that is
taken is reported, and the languages before it have been added. -/
theorem offerWeb_stops_at_taken [Limits] {Host : Type} {c : Capabilities Host}
    {forward : Callback Host}
    {held : Host → Registry} (hfound : c.callback? Capabilities.registrar = some forward)
    (hforwards : forward.Forwards held) (s : Settings) (host : Host) :
    let r := held host
    let after := held (c.offerWeb s host).1
    let answer := (c.offerWeb s host).2
    let webTags : List Text := ["html", "css", "svg", "js"]
    ((∃ tags, answer = .ok tags) ↔ ∀ tag ∈ webTags, tag ∉ r.tags) ∧
    (∀ tags, answer = .ok tags → tags = webTags ∧ after.plugins = r.plugins ++ Plugin.web s) ∧
    (∀ f, answer = .error f → ∃ added taken rest, Plugin.web s = added ++ taken :: rest ∧
      (∀ p ∈ added, p.tag ∉ r.tags) ∧ taken.tag ∈ r.tags ∧
      f = .report (.alreadyRegistered (.text taken.tag)) ∧
      after.plugins = r.plugins ++ added) := by
  intro r after answer webTags
  have hweb : (Plugin.web s).map Plugin.tag = webTags := rfl
  have hnodup : ((Plugin.web s).map Plugin.tag).Nodup := by
    rw [hweb]
    decide
  have hoffer : c.offerWeb s host = Capabilities.offerEach forward host (Plugin.web s) := by
    rw [Capabilities.offerWeb, hfound]
  obtain ⟨hafter, hanswer⟩ := offerEach_eq_registerAll hforwards (Plugin.web s) host
  rw [← hoffer] at hafter hanswer
  change after = (r.registerAll (Plugin.web s)).1 at hafter
  change answer = (r.registerAll (Plugin.web s)).2.mapError .report at hanswer
  rcases r.registerAll_cases hnodup with ⟨hfree, joined, hjoined, hplugins⟩ |
    ⟨added, taken, rest, hsplit, hfree, htaken, joined, hjoined, hplugins⟩
  · rw [hjoined] at hafter hanswer
    have hok : answer = .ok webTags := hanswer
    have htags : ∀ tag ∈ webTags, tag ∉ r.tags := by
      intro tag hmem
      obtain ⟨p, hp, rfl⟩ := List.mem_map.mp (hweb ▸ hmem)
      exact hfree p hp
    refine ⟨⟨fun _ => htags, fun _ => ⟨webTags, hok⟩⟩, fun tags h => ?_, fun f h => ?_⟩
    · cases hok.symm.trans h
      exact ⟨rfl, hafter ▸ hplugins⟩
    · cases hok.symm.trans h
  · rw [hjoined] at hafter hanswer
    have herror : answer = .error (.report (.alreadyRegistered (.text taken.tag))) := hanswer
    have hmem : taken.tag ∈ webTags := by
      rw [← hweb, hsplit]
      simp
    refine ⟨⟨fun ⟨tags, h⟩ => ?_, fun h => absurd htaken (h _ hmem)⟩, fun tags h => ?_,
      fun f h => ?_⟩
    · cases herror.symm.trans h
    · cases herror.symm.trans h
    · cases herror.symm.trans h
      exact ⟨added, taken, rest, hsplit, hfree, htaken, rfl, hafter ▸ hplugins⟩

def drawn : Registry where
  plugins := [⟨{ Language.html with tag := "md" }, default⟩, ⟨Language.svg, default⟩]
  tags_nodup := by decide

/-- A host that forwards to a registry and writes down what it has been offered. -/
def journal [Limits] : Callback (Registry × List Text) := fun tag p host =>
  (((offer tag p host.1).1, host.2 ++ [tag]), (offer tag p host.1).2)

def journalCapabilities [Limits] : Capabilities (Registry × List Text) :=
  .mapping [("default_module", none), (Capabilities.registrar, some journal)]

/-- The drawings are taken, so that not all languages are added. -/
theorem offerWeb_stops_at_svg :
    journalCapabilities.callback? Capabilities.registrar = some journal ∧
    journal.Forwards Prod.fst ∧
    let answer := (journalCapabilities.offerWeb default (drawn, [])).2
    let after := (journalCapabilities.offerWeb default (drawn, [])).1.1
    ∃ added taken rest, Plugin.web default = added ++ taken :: rest ∧ taken.tag ∈ drawn.tags ∧
      answer = .error (.report (.alreadyRegistered (.text taken.tag))) ∧
      after.plugins = drawn.plugins ++ added := by
  have hfound : journalCapabilities.callback? Capabilities.registrar = some journal := rfl
  have hforwards : journal.Forwards Prod.fst := fun _ _ _ => rfl
  obtain ⟨hall, -, hstop⟩ := offerWeb_stops_at_taken hfound hforwards default (drawn, [])
  refine ⟨hfound, hforwards, ?_⟩
  cases hanswer : (journalCapabilities.offerWeb default (drawn, [])).2 with
  | ok tags => exact absurd (hall.mp ⟨tags, hanswer⟩ "svg" (by decide)) (by decide)
  | error f =>
    obtain ⟨added, taken, rest, hsplit, -, htaken, rfl, hafter⟩ := hstop f hanswer
    exact ⟨added, taken, rest, hsplit, htaken, rfl, hafter⟩

end Registry

end SceneBook
