import SceneBook.Proofs.Value.Keys
import SceneBook.Settings.Layers

/-!
# Merged layers

Merging goes by keys: what is under a key afterwards depends on what the two layers have under this
key alone. So it can be said of each key by itself, and of the mappings inside mappings in the same
way. It fails only where mappings of both layers are nested in each other too deep.
-/

namespace SceneBook

namespace Entries

variable {α : Type} {es : Entries α}

private theorem put_of_find?_eq_none {k : Scalar} (h : es.find? k = none) (v : α) :
    es.put k v = es ++ [(k, v)] := by
  induction es with
  | nil => rfl
  | cons e rest ih =>
    rw [find?] at h
    split at h
    · cases h
    · next hother => rw [put, if_neg hother, ih h, List.cons_append]

end Entries

namespace Settings

variable {merge : Entries Value → Entries Value → Except Misuse (Entries Value)}
  {base later es : Entries Value} {e : Misuse}

/-- What is under a key after merging, by what the two layers have there. -/
def overlayAt (merge : Entries Value → Entries Value → Except Misuse (Entries Value))
    (base : Option Value) : Option Value → Except Misuse (Option Value)
  | none => .ok base
  | some v => (overlay merge base v).map some

private theorem overlay_eq_error_iff {b : Option Value} {v : Value} :
    overlay merge b v = .error e ↔
      ∃ bs vs, b.bind Value.map? = some bs ∧ v.map? = some vs ∧ merge bs vs = .error e := by
  unfold overlay
  split
  · next bs vs hbs hvs =>
    rw [map_eq_error_iff, hbs, hvs]
    constructor
    · intro h
      exact ⟨bs, vs, rfl, rfl, h⟩
    · rintro ⟨_, _, ⟨⟩, ⟨⟩, h⟩
      exact h
  · next hnot =>
    constructor
    · rintro ⟨⟩
    · rintro ⟨bs, vs, hbs, hvs, -⟩
      exact absurd hvs (hnot bs vs hbs)

/-- How two layers come to something under a key: the later one counts, or both are merged. -/
theorem overlay_eq_ok {b? : Option Value} {v r : Value} (h : overlay merge b? v = .ok r) :
    ((b?.bind Value.map? = none ∨ v.map? = none) ∧ r = v) ∨
      ∃ bs vs es, b?.bind Value.map? = some bs ∧ v.map? = some vs ∧ merge bs vs = .ok es ∧
        r = .map es := by
  unfold overlay at h
  split at h
  · next bs vs hbs hvs =>
    obtain ⟨es, hes, rfl⟩ := map_eq_ok_iff.mp h
    exact .inr ⟨bs, vs, es, hbs, hvs, hes, rfl⟩
  · next hnot =>
    cases h
    refine .inl ⟨?_, rfl⟩
    cases hbs : b?.bind Value.map? with
    | none => exact .inl rfl
    | some bs =>
      cases hvs : v.map? with
      | none => exact .inr rfl
      | some vs => exact absurd hvs (hnot bs vs hbs)

private theorem overlayEach_cons (k : Scalar) (v : Value) (rest : Entries Value) :
    overlayEach merge base ((k, v) :: rest) =
      (overlay merge (base.find? k) v >>= fun r => overlayEach merge (base.put k r) rest) := by
  rw [overlayEach, List.foldlM_cons]
  dsimp only
  cases overlay merge (base.find? k) v <;> rfl

theorem find?_overlayEach (hlater : later.Distinct) (h : overlayEach merge base later = .ok es)
    (k : Scalar) : overlayAt merge (base.find? k) (later.find? k) = .ok (es.find? k) := by
  induction later generalizing base with
  | nil =>
    cases h
    rfl
  | cons entry rest ih =>
    obtain ⟨key, v⟩ := entry
    rw [overlayEach_cons] at h
    obtain ⟨r, hr, h⟩ := bind_eq_ok_iff.mp h
    obtain ⟨hnew, hrest⟩ := Entries.distinct_cons.mp hlater
    have hstep := ih hrest h
    rw [Entries.find?_put] at hstep
    rw [Entries.find?]
    split
    · next hsame =>
      rw [if_pos hsame, ← Entries.find?_congr hsame, hnew] at hstep
      rw [← Entries.find?_congr hsame, overlayAt, hr, ← hstep]
      rfl
    · next hother =>
      rw [if_neg hother] at hstep
      exact hstep

private theorem keys_overlayEach (hlater : later.Distinct)
    (h : overlayEach merge base later = .ok es) :
    es.keys = base.keys ++ later.keys.filter fun k => !base.has k := by
  induction later generalizing base with
  | nil =>
    cases h
    exact (List.append_nil _).symm
  | cons entry rest ih =>
    obtain ⟨key, v⟩ := entry
    rw [overlayEach_cons] at h
    obtain ⟨r, -, h⟩ := bind_eq_ok_iff.mp h
    obtain ⟨hnew, hrest⟩ := Entries.distinct_cons.mp hlater
    have hfilter : (Entries.keys rest).filter (fun k => !(base.put key r).has k) =
        (Entries.keys rest).filter fun k => !base.has k := by
      refine List.filter_congr fun k hk => ?_
      have hother : key.same k = false := by
        rw [Scalar.same_comm]
        exact Entries.find?_eq_none_iff.mp hnew k hk
      rw [Entries.has, Entries.find?_put, hother, Entries.has]
      rfl
    rw [ih hrest h, Entries.keys_put, hfilter]
    change _ = base.keys ++ List.filter _ (key :: Entries.keys rest)
    rw [List.filter_cons]
    cases base.has key <;> simp

/-- Merging fails where it fails under one key, for the same reason. -/
theorem overlayEach_eq_error (hlater : later.Distinct)
    (h : overlayEach merge base later = .error e) :
    ∃ k bs vs, (base.find? k).bind Value.map? = some bs ∧
      (later.find? k).bind Value.map? = some vs ∧ merge bs vs = .error e := by
  induction later generalizing base with
  | nil => cases h
  | cons entry rest ih =>
    obtain ⟨key, v⟩ := entry
    rw [overlayEach_cons] at h
    obtain ⟨hnew, hrest⟩ := Entries.distinct_cons.mp hlater
    rcases bind_eq_error_iff.mp h with h | ⟨r, -, h⟩
    · obtain ⟨bs, vs, hbs, hvs, hmerge⟩ := overlay_eq_error_iff.mp h
      refine ⟨key, bs, vs, hbs, ?_, hmerge⟩
      rw [Entries.find?, if_pos (Scalar.same_self key)]
      exact hvs
    · obtain ⟨k, bs, vs, hbs, hvs, hmerge⟩ := ih hrest h
      have hother : ¬ key.same k := by
        intro hsame
        rw [← Entries.find?_congr hsame, hnew] at hvs
        cases hvs
      rw [Entries.find?_put, if_neg hother] at hbs
      refine ⟨k, bs, vs, hbs, ?_, hmerge⟩
      rw [Entries.find?, if_neg hother]
      exact hvs

private theorem overlayEach_append (h : Entries.Distinct (base ++ later)) :
    overlayEach merge base later = .ok (base ++ later) := by
  induction later generalizing base with
  | nil => rw [List.append_nil]; rfl
  | cons entry rest ih =>
    obtain ⟨key, v⟩ := entry
    have hnone : base.find? key = none := by
      rw [Entries.Distinct, Entries.keys, List.map_append, List.pairwise_append] at h
      exact Entries.find?_eq_none_iff.mpr fun k hk => h.2.2 k hk key List.mem_cons_self
    have hover : overlay merge (base.find? key) v = .ok v := by rw [hnone]; rfl
    rw [List.append_cons] at h ⊢
    rw [overlayEach_cons, hover, ← ih h, ← Entries.put_of_find?_eq_none hnone]
    rfl

theorem layer_eq_overlayEach [Limits] (base later : Entries Value) :
    layer base later = overlayEach (mergeWithin (Limits.merge - 1)) base later := by
  obtain ⟨depth, hdepth⟩ := Nat.exists_eq_add_of_le' Limits.two_le_merge
  rw [layer, hdepth]
  rfl

/-- There is always room for mappings inside the two that are merged. -/
theorem merge_pred_eq_succ [Limits] : Limits.merge - 1 = Limits.merge - 2 + 1 := by
  have htwo := Limits.two_le_merge
  omega

theorem layer_nil [Limits] (hlater : later.Distinct) : layer [] later = .ok later := by
  have happended : Entries.Distinct ([] ++ later) := hlater
  rw [layer_eq_overlayEach]
  exact overlayEach_append happended

/-- Mappings of both layers stand under the same keys inside each other, at least this deep. -/
def Nested : Nat → Entries Value → Entries Value → Prop
  | 0, _, _ => True
  | depth + 1, base, later =>
    ∃ k bs vs, (base.find? k).bind Value.map? = some bs ∧
      (later.find? k).bind Value.map? = some vs ∧ Nested depth bs vs

theorem keyed_of_bind_map? {v? : Option Value} {vs : Entries Value} (h : ∀ v ∈ v?, v.Keyed)
    (hvs : v?.bind Value.map? = some vs) : (Value.map vs).Keyed := by
  obtain ⟨v, hv, hmap⟩ := Option.bind_eq_some_iff.mp hvs
  exact (h v hv).map? hmap

theorem mergeWithin_eq_error_iff {depth : Nat} (hlater : (Value.map later).Keyed) :
    mergeWithin depth base later = .error e ↔ e = .tooDeep ∧ Nested depth base later := by
  induction depth generalizing base later e with
  | zero =>
    constructor
    · rintro ⟨⟩
      exact ⟨rfl, trivial⟩
    · rintro ⟨rfl, -⟩
      rfl
  | succ depth ih =>
    have hdeeper {k : Scalar} {vs : Entries Value}
        (hvs : (later.find? k).bind Value.map? = some vs) : (Value.map vs).Keyed :=
      keyed_of_bind_map? (fun v hv => hlater.find? hv) hvs
    have hfails {e : Misuse} (h : mergeWithin (depth + 1) base later = .error e) :
        e = .tooDeep ∧ Nested (depth + 1) base later := by
      obtain ⟨k, bs, vs, hbs, hvs, hmerge⟩ := overlayEach_eq_error hlater.distinct h
      obtain ⟨htooDeep, hnested⟩ := (ih (hdeeper hvs)).mp hmerge
      exact ⟨htooDeep, k, bs, vs, hbs, hvs, hnested⟩
    refine ⟨hfails, ?_⟩
    rintro ⟨rfl, k, bs, vs, hbs, hvs, hnested⟩
    cases h : mergeWithin (depth + 1) base later with
    | error e' => rw [(hfails h).1]
    | ok es =>
      -- The merge under `k` has failed, so no entries can have come out.
      have hkey := find?_overlayEach hlater.distinct h k
      obtain ⟨v, hv, hmap⟩ := Option.bind_eq_some_iff.mp hvs
      have hfail : overlay (mergeWithin depth) (base.find? k) v = .error .tooDeep :=
        overlay_eq_error_iff.mpr ⟨bs, vs, hbs, hmap, (ih (hdeeper hvs)).mpr ⟨rfl, hnested⟩⟩
      rw [hv, overlayAt, hfail] at hkey
      cases hkey

theorem exists_mergeWithin {depth : Nat} (hlater : (Value.map later).Keyed)
    (h : ¬ Nested depth base later) : ∃ es, mergeWithin depth base later = .ok es := by
  cases hes : mergeWithin depth base later with
  | ok es => exact ⟨es, rfl⟩
  | error e => exact absurd ((mergeWithin_eq_error_iff hlater).mp hes).2 h

/-- What an earlier and a later layer come to: a value of the later layer takes the place of the
earlier one, unless both are mappings. Then it has the keys of the earlier one and after them those
that only the later one has, and under each key what the two come to there. -/
inductive Overlaid : Option Value → Option Value → Option Value → Prop
  | kept (b? : Option Value) : Overlaid b? none b?
  | replaced {b? : Option Value} {v : Value} (h : b?.bind Value.map? = none ∨ v.map? = none) :
    Overlaid b? (some v) (some v)
  | merged {b v : Value} {bs vs es : Entries Value} (hb : b.map? = some bs) (hv : v.map? = some vs)
    (hkeys : es.keys = bs.keys ++ vs.keys.filter fun k => !bs.has k)
    (h : ∀ k, Overlaid (bs.find? k) (vs.find? k) (es.find? k)) :
    Overlaid (some b) (some v) (some (.map es))

theorem overlaid_of_overlayAt {depth : Nat} {b? v? r? : Option Value} (hv : ∀ v ∈ v?, v.Keyed)
    (h : overlayAt (mergeWithin depth) b? v? = .ok r?) : Overlaid b? v? r? := by
  induction depth generalizing b? v? r? with
  | zero =>
    cases v? with
    | none =>
      cases h
      exact .kept b?
    | some v =>
      obtain ⟨r, hr, rfl⟩ := map_eq_ok_iff.mp h
      rcases overlay_eq_ok hr with ⟨hnot, rfl⟩ | ⟨bs, vs, es, -, -, hes, -⟩
      · exact .replaced hnot
      · cases hes
  | succ depth ih =>
    cases v? with
    | none =>
      cases h
      exact .kept b?
    | some v =>
      obtain ⟨r, hr, rfl⟩ := map_eq_ok_iff.mp h
      rcases overlay_eq_ok hr with ⟨hnot, rfl⟩ | ⟨bs, vs, es, hbs, hvs, hes, rfl⟩
      · exact .replaced hnot
      · obtain ⟨b, rfl, hb⟩ := Option.bind_eq_some_iff.mp hbs
        have hkeyed : (Value.map vs).Keyed := (hv v rfl).map? hvs
        exact .merged hb hvs (keys_overlayEach hkeyed.distinct hes) fun k =>
          ih (fun u hu => hkeyed.find? hu) (find?_overlayEach hkeyed.distinct hes k)

end Settings

end SceneBook
