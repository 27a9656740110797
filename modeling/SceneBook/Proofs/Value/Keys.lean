import SceneBook.Proofs.Value.Sharing
import Mathlib.Data.List.Basic

/-!
# Keys of mappings

A mapping has each of its keys once, and so has every mapping inside it. Looking a key up then gives
the one entry that has it. A heap in which this is so of every mapping gives only such values.
-/

namespace SceneBook

namespace Entries

variable {α β : Type} {es fs : Entries α} {k : Scalar} {v : α}

def Distinct (es : Entries α) : Prop := es.keys.Pairwise fun a b => a.same b = false

theorem has_eq_any (es : Entries α) (k : Scalar) :
    es.has k = es.keys.any fun key => key.same k := by
  induction es with
  | nil => rfl
  | cons e rest ih =>
    rw [has, find?, keys, List.map_cons, List.any_cons, ← keys, ← ih, has]
    cases e.1.same k <;> rfl

theorem find?_eq_none_iff : es.find? k = none ↔ ∀ key ∈ es.keys, key.same k = false := by
  have h := es.has_eq_any k
  rw [has] at h
  rw [← Option.isNone_iff_eq_none, ← Option.not_isSome, h]
  simp

theorem find?_congr {k' : Scalar} (h : k.same k') : es.find? k = es.find? k' := by
  induction es with
  | nil => rfl
  | cons e rest ih =>
    have hkey : e.1.same k = e.1.same k' := by
      rw [Scalar.same_comm, Scalar.same_congr h, Scalar.same_comm]
    rw [find?, find?, hkey, ih]

private theorem exists_mem_of_find? (h : es.find? k = some v) :
    ∃ key, key.same k = true ∧ (key, v) ∈ es := by
  induction es with
  | nil => cases h
  | cons e rest ih =>
    rw [find?] at h
    split at h
    · next hsame =>
      cases h
      exact ⟨e.1, hsame, List.mem_cons_self⟩
    · obtain ⟨key, hsame, hmem⟩ := ih h
      exact ⟨key, hsame, List.mem_cons_of_mem _ hmem⟩

theorem keys_put (es : Entries α) (k : Scalar) (v : α) :
    (es.put k v).keys = if es.has k then es.keys else es.keys ++ [k] := by
  induction es with
  | nil => rfl
  | cons e rest ih =>
    rw [put, has, find?]
    cases hsame : e.1.same k with
    | true => rfl
    | false =>
      change e.1 :: (put rest k v).keys =
        if has rest k then e.1 :: keys rest else e.1 :: keys rest ++ [k]
      rw [ih]
      split <;> rfl

theorem distinct_nil : Distinct ([] : Entries α) := List.Pairwise.nil

theorem distinct_cons {e : Scalar × α} :
    Distinct (e :: es) ↔ es.find? e.1 = none ∧ Distinct es := by
  rw [Distinct, keys, List.map_cons, List.pairwise_cons, find?_eq_none_iff]
  simp only [Scalar.same_comm e.1]
  rfl

theorem Distinct.put (h : es.Distinct) (k : Scalar) (v : α) : (es.put k v).Distinct := by
  rw [Distinct, keys_put]
  split
  · exact h
  · next habsent =>
    have hnone : es.find? k = none := by
      rw [← Option.isNone_iff_eq_none, ← Option.not_isSome]
      simpa [has] using habsent
    rw [List.pairwise_append]
    refine ⟨h, List.pairwise_singleton _ _, fun a ha b hb => ?_⟩
    rw [List.mem_singleton.mp hb]
    exact find?_eq_none_iff.mp hnone a ha

theorem find?_append {fs : Entries α} : (es ++ fs).find? k = (es.find? k).or (fs.find? k) := by
  induction es with
  | nil => rfl
  | cons e rest ih =>
    rw [List.cons_append, find?, find?, ih]
    split <;> rfl

private theorem Distinct.perm {fs : Entries α} (h : es.Perm fs) (hfs : fs.Distinct) :
    es.Distinct := by
  refine (List.Perm.pairwise_iff ?_ (h.map Prod.fst)).mpr hfs
  intro a b hab
  rw [Scalar.same_comm, hab]

/-- Where no two entries have the same key, what is found does not hang on their order. -/
theorem find?_perm {fs : Entries α} (h : es.Perm fs) (hfs : fs.Distinct) :
    es.find? k = fs.find? k := by
  induction h with
  | nil => rfl
  | cons e _ ih => rw [find?, find?, ih (distinct_cons.mp hfs).2]
  | swap a b rest =>
    have hba : b.1.same a.1 = false :=
      find?_eq_none_iff.mp (distinct_cons.mp hfs).1 b.1 List.mem_cons_self
    simp only [find?]
    cases ha : a.1.same k with
    | false => rfl
    | true =>
      have hb : b.1.same k = false := by
        rw [Scalar.same_comm, ← Scalar.same_congr ha, Scalar.same_comm, hba]
      simp [hb]
  | trans _ hright ihleft ihright => rw [ihleft (hfs.perm hright), ihright hfs]

theorem find?_of_mem (hes : es.Distinct) {v : α} (hmem : (k, v) ∈ es) : es.find? k = some v := by
  induction es with
  | nil => cases hmem
  | cons e rest ih =>
    obtain ⟨hnew, hrest⟩ := distinct_cons.mp hes
    rw [find?]
    rcases List.mem_cons.mp hmem with rfl | hmem
    · rw [if_pos (Scalar.same_self k)]
    · have hfound := ih hrest hmem
      have hother : ¬ e.1.same k := by
        intro hsame
        rw [find?_congr hsame, hfound] at hnew
        cases hnew
      rw [if_neg hother, hfound]

/-- The entries with others written over them, one after the other. -/
def putAll (es fs : Entries α) : Entries α := fs.foldl (fun es f => es.put f.1 f.2) es

private theorem putAll_cons (es : Entries α) (f : Scalar × α) (fs : Entries α) :
    es.putAll (f :: fs) = (es.put f.1 f.2).putAll fs := rfl

theorem find?_putAll (hfs : fs.Distinct) (k : Scalar) :
    (es.putAll fs).find? k = (fs.find? k).or (es.find? k) := by
  induction fs generalizing es with
  | nil => rfl
  | cons f rest ih =>
    obtain ⟨key, v⟩ := f
    obtain ⟨hnew, hrest⟩ := distinct_cons.mp hfs
    rw [putAll_cons, ih hrest, find?_put, find?]
    by_cases hsame : key.same k
    · rw [if_pos hsame, if_pos hsame, ← find?_congr hsame, hnew, Option.none_or, Option.some_or]
    · rw [if_neg hsame, if_neg hsame]

theorem keys_putAll (hfs : fs.Distinct) :
    (es.putAll fs).keys = es.keys ++ fs.keys.filter fun k => !es.has k := by
  induction fs generalizing es with
  | nil => exact (List.append_nil _).symm
  | cons f rest ih =>
    obtain ⟨key, v⟩ := f
    obtain ⟨hnew, hrest⟩ := distinct_cons.mp hfs
    have hothers : (keys rest).filter (fun k => !(es.put key v).has k) =
        (keys rest).filter fun k => !es.has k := by
      refine List.filter_congr fun k hk => ?_
      have hother : key.same k = false := by
        rw [Scalar.same_comm]
        exact find?_eq_none_iff.mp hnew k hk
      rw [has, find?_put, hother, has]
      rfl
    rw [putAll_cons, ih hrest, keys_put, hothers]
    change _ = es.keys ++ List.filter _ (key :: keys rest)
    rw [List.filter_cons]
    cases es.has key <;> simp

section Forall₂

variable {gs : Entries β} {R : Scalar × α → Scalar × β → Prop}

theorem keys_eq_of_forall₂ (hR : ∀ e g, R e g → e.1 = g.1) (h : List.Forall₂ R es gs) :
    gs.keys = es.keys := by
  induction h with
  | nil => rfl
  | @cons e g _ _ heg _ ih =>
    rw [keys, keys, List.map_cons, List.map_cons, ← keys, ← keys, ih, hR e g heg]

/-- Where two lists of entries go together, the same key finds entries that do, or none. -/
theorem find?_of_forall₂ (hR : ∀ e g, R e g → e.1 = g.1) (h : List.Forall₂ R es gs) (k : Scalar) :
    es.find? k = none ∧ gs.find? k = none ∨
      ∃ e g, e.1.same k ∧ es.find? k = some e.2 ∧ gs.find? k = some g.2 ∧ R e g := by
  induction h with
  | nil => exact .inl ⟨rfl, rfl⟩
  | @cons e g _ _ heg _ ih =>
    rw [find?, find?, ← hR e g heg]
    by_cases hsame : e.1.same k
    · rw [if_pos hsame, if_pos hsame]
      exact .inr ⟨e, g, hsame, rfl, rfl, heg⟩
    · rw [if_neg hsame, if_neg hsame]
      exact ih

end Forall₂

end Entries

namespace Value

/-- Every mapping in the value has distinct keys. -/
inductive Keyed : Value → Prop
  | scalar (s : Scalar) : Keyed (.scalar s)
  | list {items : List Value} (h : ∀ v ∈ items, Keyed v) : Keyed (.list items)
  | tuple {items : List Value} (h : ∀ v ∈ items, Keyed v) : Keyed (.tuple items)
  | set (members : List Scalar) : Keyed (.set members)
  | map {es : Entries Value} (hkeys : es.Distinct) (h : ∀ e ∈ es, Keyed e.2) : Keyed (.map es)
  | knot {l : Nat} {b : Value} (h : Keyed b) : Keyed (.knot l b)
  | back (l : Nat) (isMap : Bool) : Keyed (.back l isMap)

private theorem cutItems_eq_map (outer : List Nat) (vs : List Value) :
    cutItems outer vs = vs.map (cut outer) := by
  induction vs with
  | nil => rfl
  | cons v rest ih => rw [cutItems, ih, List.map_cons]

private theorem cutEntries_eq_map (outer : List Nat) (es : Entries Value) :
    cutEntries outer es = es.map fun e => (e.1, cut outer e.2) := by
  induction es with
  | nil => rfl
  | cons e rest ih => rw [cutEntries, ih, List.map_cons]

private theorem loosenItems_eq_map (l : Nat) (whole : Value) (outer : List Nat) (vs : List Value) :
    loosenItems l whole outer vs = vs.map (loosen l whole outer) := by
  induction vs with
  | nil => rfl
  | cons v rest ih => rw [loosenItems, ih, List.map_cons]

private theorem loosenEntries_eq_map (l : Nat) (whole : Value) (outer : List Nat)
    (es : Entries Value) :
    loosenEntries l whole outer es = es.map fun e => (e.1, loosen l whole outer e.2) := by
  induction es with
  | nil => rfl
  | cons e rest ih => rw [loosenEntries, ih, List.map_cons]

private theorem Keyed.map_entries {f : Value → Value} {es : Entries Value} (hkeys : es.Distinct)
    (h : ∀ e ∈ es, Keyed (f e.2)) : Keyed (.map (es.map fun e => (e.1, f e.2))) := by
  refine .map ?_ (List.forall_mem_map.mpr h)
  rw [Entries.Distinct, Entries.keys, List.map_map]
  exact hkeys

private theorem Keyed.cut {v : Value} (h : v.Keyed) (outer : List Nat) : (v.cut outer).Keyed := by
  induction h with
  | scalar s => exact .scalar s
  | list _ ih =>
    rw [Value.cut, cutItems_eq_map]
    exact .list (List.forall_mem_map.mpr ih)
  | tuple _ ih =>
    rw [Value.cut, cutItems_eq_map]
    exact .tuple (List.forall_mem_map.mpr ih)
  | set members => exact .set members
  | map hkeys _ ih =>
    rw [Value.cut, cutEntries_eq_map]
    exact .map_entries hkeys ih
  | knot _ ih =>
    rw [Value.cut]
    split
    · exact .back _ _
    · exact .knot ih
  | back l isMap => exact .back l isMap

private theorem Keyed.loosen {l : Nat} {whole v : Value} (hwhole : whole.Keyed) (h : v.Keyed)
    (outer : List Nat) : (loosen l whole outer v).Keyed := by
  induction h generalizing outer with
  | scalar s => exact .scalar s
  | list _ ih =>
    rw [Value.loosen, loosenItems_eq_map]
    exact .list (List.forall_mem_map.mpr fun v hv => ih v hv outer)
  | tuple _ ih =>
    rw [Value.loosen, loosenItems_eq_map]
    exact .tuple (List.forall_mem_map.mpr fun v hv => ih v hv outer)
  | set members => exact .set members
  | map hkeys _ ih =>
    rw [Value.loosen, loosenEntries_eq_map]
    exact .map_entries hkeys fun e he => ih e he outer
  | knot _ ih => exact .knot (ih _)
  | back l' isMap =>
    rw [Value.loosen]
    split
    · exact hwhole.cut outer
    · exact .back l' isMap

private theorem Keyed.opened {v : Value} (h : v.Keyed) : v.opened.Keyed := by
  unfold Value.opened
  split
  · cases h with
    | knot hb => exact Keyed.loosen (.knot hb) hb []
  · exact h

theorem Keyed.map? {v : Value} {es : Entries Value} (h : v.Keyed) (hmap : v.map? = some es) :
    (Value.map es).Keyed := by
  have hopened := h.opened
  unfold Value.map? at hmap
  split at hmap
  · next heq =>
    cases hmap
    rwa [heq] at hopened
  · cases hmap

theorem Keyed.distinct {es : Entries Value} (h : (Value.map es).Keyed) : es.Distinct := by
  cases h with
  | map hkeys _ => exact hkeys

theorem Keyed.find? {es : Entries Value} {k : Scalar} {v : Value} (h : (Value.map es).Keyed)
    (hv : es.find? k = some v) : v.Keyed := by
  cases h with
  | map _ hvalues =>
    obtain ⟨key, -, hmem⟩ := Entries.exists_mem_of_find? hv
    exact hvalues _ hmem

end Value

def Object.Keyed : Object → Prop
  | .mapping es => es.Distinct
  | _ => True

instance : DecidablePred Object.Keyed
  | .mapping es => inferInstanceAs (Decidable (es.keys.Pairwise fun a b => a.same b = false))
  | .sequence _ | .tuple _ | .set _ => isTrue trivial

private theorem Value.Keyed.zip {es : Entries Slot} {vs : List Value} (hes : es.Distinct)
    (hvs : ∀ v ∈ vs, v.Keyed) : (Value.map ((es.map Prod.fst).zip vs)).Keyed := by
  refine .map ?_ fun e he => hvs _ (List.of_mem_zip he).2
  rw [Entries.Distinct, Entries.keys, List.zip_eq_zip_take_min, List.map_fst_zip (by simp)]
  exact List.Pairwise.sublist (List.take_sublist _ _) hes

namespace Heap

variable {h : Heap}

def Keyed (h : Heap) : Prop := ∀ id o, h.get? id = some o → o.Keyed

theorem Keyed.empty : Heap.empty.Keyed := by
  intro id o ho
  simp [Heap.empty, get?] at ho

theorem Keyed.alloc (hh : h.Keyed) {o : Object} (ho : o.Keyed) : (h.alloc o).1.Keyed := by
  intro id found hfound
  rw [get?_alloc] at hfound
  split at hfound
  · cases hfound
    exact ho
  · exact hh id found hfound

theorem Keyed.write (hh : h.Keyed) (id : Nat) {o : Object} (ho : o.Keyed) :
    (h.write id o).Keyed := by
  intro other found hfound
  rcases eq_or_get?_of_write hfound with rfl | hold
  · exact ho
  · exact hh other found hold

def Known.All (K : Nat → Value → Prop) (known : Known) : Prop :=
  ∀ (id : Nat) (v : Value), known[id]? = some (some v) → K id v

theorem Known.all_replicate (K : Nat → Value → Prop) (n : Nat) :
    Known.All K (Array.replicate n none) := by
  intro id v hv
  rw [Array.getElem?_replicate] at hv
  split at hv <;> cases hv

private theorem forall_mem_of_forall₂ {α β : Type} {P : β → Prop} {as : List α} {bs : List β}
    (h : List.Forall₂ (fun _ b => P b) as bs) : ∀ b ∈ bs, P b := by
  induction h with
  | nil => exact List.forall_mem_nil P
  | cons hb _ ih => exact List.forall_mem_cons.mpr ⟨hb, ih⟩

/-- What a step results in has a property, and so have the values known after it. -/
def Keeps {α : Type} (K : Nat → Value → Prop) (x : StateM Known α) (P : α → Prop) : Prop :=
  ∀ known : Known, known.All K → P (x known).1 ∧ Known.All K (x known).2

section Keeps

variable {α β : Type} {K : Nat → Value → Prop} {P : α → Prop} {Q : β → Prop}

theorem Keeps.pure {a : α} (ha : P a) : Keeps K (Pure.pure a) P := fun _ hknown => ⟨ha, hknown⟩

theorem Keeps.bind {x : StateM Known α} {f : α → StateM Known β} (hx : Keeps K x P)
    (hf : ∀ a, P a → Keeps K (f a) Q) : Keeps K (x >>= f) Q := by
  intro known hknown
  obtain ⟨hp, hknown'⟩ := hx known hknown
  exact hf _ hp _ hknown'

private theorem Keeps.mapM {R : α → β → Prop} {f : α → StateM Known β} {as : List α}
    (hf : ∀ a ∈ as, Keeps K (f a) (R a)) : Keeps K (as.mapM f) (List.Forall₂ R as) := by
  induction as with
  | nil => exact .pure .nil
  | cons a rest ih =>
    obtain ⟨hfirst, hrest⟩ := List.forall_mem_cons.mp hf
    rw [List.mapM_cons]
    exact .bind hfirst fun b hb => .bind (ih hrest) fun bs hbs => .pure (.cons hb hbs)

theorem Keeps.get : Keeps K MonadState.get (Known.All K) := fun _ hknown => ⟨hknown, hknown⟩

theorem Keeps.keep {id : Nat} {v : Value} (hv : K id v) :
    Keeps K (modify fun known : Known => known.setIfInBounds id (some v)) fun _ => True := by
  intro known hknown
  refine ⟨trivial, ?_⟩
  intro other w hw
  change (known.setIfInBounds id (some v))[other]? = some (some w) at hw
  rw [Array.getElem?_setIfInBounds] at hw
  split at hw
  · next heq =>
    subst heq
    split at hw
    · cases hw
      exact hv
    · cases hw
  · exact hknown other w hw

end Keeps

private theorem Keyed.unfold (hh : h.Keyed) (depth : Nat) (outer : List Nat) (s : Slot) :
    Keeps (fun _ v => v.Keyed) (h.unfold depth outer s) fun r => r.1.Keyed := by
  induction depth generalizing outer s with
  | zero =>
    cases s with
    | scalar c => exact .pure (.scalar c)
    | ref id => exact .pure (.back id false)
  | succ depth ih =>
    cases s with
    | scalar c => exact .pure (.scalar c)
    | ref id =>
      rw [Heap.unfold]
      split
      · exact .pure (.back id _)
      refine .bind .get fun known hknown => ?_
      split
      · next v hv => exact .pure (hknown id v hv)
      extract_lets items finish
      have hitems (slots : List Slot) :
          Keeps (fun _ v => v.Keyed) (items slots) (∀ v ∈ ·.1, v.Keyed) :=
        .bind (.mapM fun s _ => ih (id :: outer) s) fun parts hparts =>
          .pure (List.forall_mem_map.mpr (forall_mem_of_forall₂ hparts))
      have hfinish (body : Value) (ways : List Nat) (hbody : body.Keyed) :
          Keeps (fun _ v => v.Keyed) (finish (body, ways)) fun r => r.1.Keyed := by
        have hv : (if ways.isEmpty = true then body else Value.knot id body).Keyed := by
          split
          · exact hbody
          · exact .knot hbody
        unfold finish
        dsimp only
        split
        · exact .bind (.keep hv) fun _ _ => .pure hv
        · exact .pure hv
      split
      · next es hes => exact .bind (hitems _) fun r hr => hfinish _ _ (.zip (hh id _ hes) hr)
      · exact .bind (hitems _) fun r hr => hfinish _ _ (.list hr)
      · exact .bind (hitems _) fun r hr => hfinish _ _ (.tuple hr)
      · rw [pure_bind]
        exact hfinish _ _ (.set _)
      · rw [pure_bind]
        exact hfinish _ _ (.scalar _)

theorem Keyed.value (hh : h.Keyed) (s : Slot) : (h.value s).Keyed :=
  (hh.unfold (h.fresh + 1) [] s _ (Known.all_replicate _ _)).1

/-- All references lead to objects, and every mapping has distinct keys. -/
structure Sound (h : Heap) : Prop where
  apart : h.Apart []
  keyed : h.Keyed

theorem sound_iff :
    h.Sound ↔ ∀ o ∈ h.objects.toList, o.Keyed ∧ ∀ s ∈ o.slots, h.Shares [] s := by
  have hmem {o : Object} : o ∈ h.objects.toList ↔ ∃ id, h.get? id = some o := by
    rw [Array.mem_toList_iff, Array.mem_iff_getElem?]
    rfl
  constructor
  · intro hh o ho
    obtain ⟨id, hget⟩ := hmem.mp ho
    exact ⟨hh.keyed id o hget, hh.apart.shares id o hget⟩
  · intro hall
    exact ⟨⟨by simp, fun id o hget => (hall o (hmem.mpr ⟨id, hget⟩)).2⟩,
      fun id o hget => (hall o (hmem.mpr ⟨id, hget⟩)).1⟩

instance : Decidable h.Sound := decidable_of_iff _ sound_iff.symm

theorem Sound.empty : Heap.empty.Sound := ⟨.empty, .empty⟩

theorem Sound.distinct (hh : h.Sound) {id : Nat} {es : Entries Slot}
    (hes : h.mapping? id = some es) : es.Distinct := by
  unfold Heap.mapping? at hes
  split at hes
  · next found hget =>
    cases hes
    exact hh.keyed id _ hget
  · cases hes

theorem Sound.alloc (hh : h.Sound) {o : Object} (hkeyed : o.Keyed)
    (hslots : ∀ s ∈ o.slots, h.Shares [] s) : (h.alloc o).1.Sound :=
  ⟨(hh.apart.alloc hslots).apart, hh.keyed.alloc hkeyed⟩

end Heap

end SceneBook
