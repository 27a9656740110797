import SceneBook.Proofs.Value.Keys
import SceneBook.Proofs.Value.Links

/-!
# Values held in a heap

A slot holds a value if the objects that it leads to have the scalars, the keys and the parts of the
value in the same places. New objects change nothing about this, and a value that is put into a heap
is held there.
-/

namespace SceneBook

/-- A value in which nothing leads back. -/
inductive Value.Plain : Value → Prop
  | scalar (s : Scalar) : Plain (.scalar s)
  | list {items : List Value} (h : ∀ v ∈ items, Plain v) : Plain (.list items)
  | tuple {items : List Value} (h : ∀ v ∈ items, Plain v) : Plain (.tuple items)
  | set (members : List Scalar) : Plain (.set members)
  | map {es : Entries Value} (h : ∀ e ∈ es, Plain e.2) : Plain (.map es)

namespace Heap

variable {h h' : Heap}

mutual

/-- Whether a slot holds a value, with all its parts. A knot is held by none. -/
def Holds (h : Heap) : Slot → Value → Prop
  | .scalar a, .scalar b => a = b
  | .ref id, .list vs => ∃ slots, h.get? id = some (.sequence slots) ∧ HoldsItems h slots vs
  | .ref id, .tuple vs => ∃ slots, h.get? id = some (.tuple slots) ∧ HoldsItems h slots vs
  | .ref id, .set ks => h.get? id = some (.set ks)
  | .ref id, .map es => ∃ fs, h.mapping? id = some fs ∧ HoldsEntries h fs es
  | _, _ => False

def HoldsItems (h : Heap) : List Slot → List Value → Prop
  | [], [] => True
  | s :: slots, v :: vs => Holds h s v ∧ HoldsItems h slots vs
  | _, _ => False

def HoldsEntries (h : Heap) : List (Scalar × Slot) → List (Scalar × Value) → Prop
  | [], [] => True
  | (k, s) :: fs, (k', v) :: es => (k = k' ∧ Holds h s v) ∧ HoldsEntries h fs es
  | _, _ => False

end

abbrev EntryHolds (h : Heap) (f : Scalar × Slot) (e : Scalar × Value) : Prop :=
  f.1 = e.1 ∧ h.Holds f.2 e.2

theorem holdsEntries_iff {fs : Entries Slot} {es : Entries Value} :
    HoldsEntries h fs es ↔ List.Forall₂ h.EntryHolds fs es := by
  induction fs generalizing es with
  | nil => cases es <;> simp [HoldsEntries]
  | cons f rest ih =>
    cases es with
    | nil => simp [HoldsEntries]
    | cons e es => rw [HoldsEntries, List.forall₂_cons, ih]

theorem holdsItems_iff {slots : List Slot} {vs : List Value} :
    HoldsItems h slots vs ↔ List.Forall₂ h.Holds slots vs := by
  induction slots generalizing vs with
  | nil => cases vs <;> simp [HoldsItems]
  | cons s rest ih =>
    cases vs with
    | nil => simp [HoldsItems]
    | cons v vs => rw [HoldsItems, List.forall₂_cons, ih]

mutual

theorem Holds.grows (hg : h.Grows h') : (s : Slot) → (v : Value) → h.Holds s v → h'.Holds s v
  | .scalar _, .scalar _, hv => hv
  | .ref _, .list vs, ⟨slots, hget, hvs⟩ => ⟨slots, hg.get? hget, HoldsItems.grows hg slots vs hvs⟩
  | .ref _, .tuple vs, ⟨slots, hget, hvs⟩ => ⟨slots, hg.get? hget, HoldsItems.grows hg slots vs hvs⟩
  | .ref _, .set _, hget => hg.get? hget
  | .ref _, .map es, ⟨fs, hmap, hes⟩ => ⟨fs, hg.mapping? hmap, HoldsEntries.grows hg fs es hes⟩

private theorem HoldsItems.grows (hg : h.Grows h') :
    (slots : List Slot) → (vs : List Value) → HoldsItems h slots vs → HoldsItems h' slots vs
  | [], [], _ => trivial
  | s :: slots, v :: vs, ⟨hv, hvs⟩ => ⟨Holds.grows hg s v hv, HoldsItems.grows hg slots vs hvs⟩

private theorem HoldsEntries.grows (hg : h.Grows h') : (fs : List (Scalar × Slot)) →
    (es : List (Scalar × Value)) → HoldsEntries h fs es → HoldsEntries h' fs es
  | [], [], _ => trivial
  | (_, s) :: fs, (_, v) :: es, ⟨⟨hkey, hv⟩, hes⟩ =>
    ⟨⟨hkey, Holds.grows hg s v hv⟩, HoldsEntries.grows hg fs es hes⟩

end

theorem HoldsEntries.find? {fs : Entries Slot} {es : Entries Value} (hes : HoldsEntries h fs es)
    (k : Scalar) : Option.Rel h.Holds (fs.find? k) (es.find? k) := by
  rcases Entries.find?_of_forall₂ (fun _ _ hfe => hfe.1) (holdsEntries_iff.mp hes) k with
    ⟨hfs, hes⟩ | ⟨f, e, -, hfs, hes, hfe⟩
  · rw [hfs, hes]
    exact .none
  · rw [hfs, hes]
    exact .some hfe.2

theorem HoldsEntries.exists_held {fs : Entries Slot} {es : Entries Value}
    (hes : HoldsEntries h fs es) {k : Scalar} {s : Slot} (hs : fs.find? k = some s) :
    ∃ v, es.find? k = some v ∧ h.Holds s v := by
  have hrel := hes.find? k
  rw [hs] at hrel
  generalize es.find? k = v? at hrel ⊢
  cases hrel with
  | some hv => exact ⟨_, rfl, hv⟩

theorem HoldsEntries.exists_slot {fs : Entries Slot} {es : Entries Value}
    (hes : HoldsEntries h fs es) {k : Scalar} {v : Value} (hv : es.find? k = some v) :
    ∃ s, fs.find? k = some s ∧ h.Holds s v := by
  have hrel := hes.find? k
  rw [hv] at hrel
  generalize fs.find? k = s? at hrel ⊢
  cases hrel with
  | some hs => exact ⟨_, rfl, hs⟩

theorem HoldsEntries.keys {fs : Entries Slot} {es : Entries Value} (hes : HoldsEntries h fs es) :
    es.keys = fs.keys :=
  Entries.keys_eq_of_forall₂ (fun _ _ hfe => hfe.1) (holdsEntries_iff.mp hes)

private theorem HoldsEntries.distinct (hh : h.Sound) {id : Nat} {fs : Entries Slot}
    {es : Entries Value}
    (hfs : h.mapping? id = some fs) (hes : HoldsEntries h fs es) : es.Distinct := by
  rw [Entries.Distinct, hes.keys]
  exact hh.distinct hfs

mutual

theorem Holds.keyed (hh : h.Sound) : (s : Slot) → (v : Value) → h.Holds s v → v.Keyed
  | .scalar _, .scalar c, _ => .scalar c
  | .ref _, .list vs, ⟨slots, _, hitems⟩ => .list (HoldsItems.keyed hh slots vs hitems)
  | .ref _, .tuple vs, ⟨slots, _, hitems⟩ => .tuple (HoldsItems.keyed hh slots vs hitems)
  | .ref _, .set ks, _ => .set ks
  | .ref _, .map es, ⟨fs, hfs, hes⟩ => .map (hes.distinct hh hfs) (HoldsEntries.keyed hh fs es hes)

theorem HoldsItems.keyed (hh : h.Sound) : (slots : List Slot) → (vs : List Value) →
    HoldsItems h slots vs → ∀ v ∈ vs, v.Keyed
  | [], [], _ => List.forall_mem_nil _
  | s :: slots, v :: vs, ⟨hv, hvs⟩ =>
    List.forall_mem_cons.mpr ⟨Holds.keyed hh s v hv, HoldsItems.keyed hh slots vs hvs⟩

theorem HoldsEntries.keyed (hh : h.Sound) : (fs : List (Scalar × Slot)) →
    (es : List (Scalar × Value)) → HoldsEntries h fs es → ∀ e ∈ es, e.2.Keyed
  | [], [], _ => List.forall_mem_nil _
  | (_, s) :: fs, (_, v) :: es, ⟨⟨_, hv⟩, hes⟩ =>
    List.forall_mem_cons.mpr ⟨Holds.keyed hh s v hv, HoldsEntries.keyed hh fs es hes⟩

end

theorem Holds.of_map {s : Slot} {es : Entries Value} (hes : h.Holds s (.map es)) :
    ∃ id fs, s = .ref id ∧ h.mapping? id = some fs ∧ HoldsEntries h fs es := by
  cases s with
  | scalar c => exact hes.elim
  | ref id =>
    obtain ⟨fs, hfs, hes⟩ := hes
    exact ⟨id, fs, rfl, hfs, hes⟩

theorem Holds.map? {s : Slot} {v : Value} {es : Entries Value} (hv : h.Holds s v)
    (hmap : v.map? = some es) : h.Holds s (.map es) := by
  cases v with
  | map es' =>
    cases hmap
    exact hv
  | knot l b => cases s <;> exact hv.elim
  | _ => cases hmap

/-- Whether an object is of the kind of a value, and has parts that hold those of the value. -/
def HoldsParts (h : Heap) : Object → Value → Prop
  | .mapping fs, .map es => HoldsEntries h fs es
  | .sequence slots, .list vs => HoldsItems h slots vs
  | .tuple slots, .tuple vs => HoldsItems h slots vs
  | .set ks, .set ks' => ks = ks'
  | _, _ => False

private theorem Holds.exists_parts {id : Nat} {v : Value} (hv : h.Holds (.ref id) v) :
    ∃ o, h.get? id = some o ∧ HoldsParts h o v := by
  cases v with
  | list vs =>
    obtain ⟨slots, hget, hvs⟩ := hv
    exact ⟨.sequence slots, hget, hvs⟩
  | tuple vs =>
    obtain ⟨slots, hget, hvs⟩ := hv
    exact ⟨.tuple slots, hget, hvs⟩
  | set ks => exact ⟨.set ks, hv, rfl⟩
  | map es =>
    obtain ⟨fs, hfs, hes⟩ := hv
    exact ⟨.mapping fs, mapping?_eq_some_iff.mp hfs, hes⟩
  | _ => exact hv.elim

theorem Holds.lt_fresh {id : Nat} {v : Value} (hv : h.Holds (.ref id) v) : id < h.fresh := by
  obtain ⟨o, ho, -⟩ := hv.exists_parts
  exact lt_fresh_of_get? ho

theorem Holds.parts {id : Nat} {v : Value} {o : Object} (hv : h.Holds (.ref id) v)
    (ho : h.get? id = some o) : HoldsParts h o v := by
  obtain ⟨o', ho', hparts⟩ := hv.exists_parts
  rw [ho] at ho'
  cases ho'
  exact hparts

theorem Holds.of_mapping? {id : Nat} {v : Value} {fs : Entries Slot} (hv : h.Holds (.ref id) v)
    (hfs : h.mapping? id = some fs) : ∃ es, v = .map es ∧ HoldsEntries h fs es := by
  have hparts := hv.parts (mapping?_eq_some_iff.mp hfs)
  cases v with
  | map es => exact ⟨es, rfl, hparts⟩
  | _ => exact hparts.elim

theorem holdsEntries_of_find? {fs : Entries Slot} {es : Entries Value} (hfs : fs.Distinct)
    (hkeys : es.keys = fs.keys) (heach : ∀ k, Option.Rel h.Holds (fs.find? k) (es.find? k)) :
    HoldsEntries h fs es := by
  induction fs generalizing es with
  | nil =>
    obtain rfl := List.map_eq_nil_iff.mp hkeys
    trivial
  | cons f rest ih =>
    cases es with
    | nil => cases hkeys
    | cons e es =>
      obtain ⟨hkey, hkeys⟩ := List.cons.inj hkeys
      obtain ⟨hnew, hrest⟩ := Entries.distinct_cons.mp hfs
      have hfirst := heach f.1
      simp only [Entries.find?, hkey, Scalar.same_self, if_true] at hfirst
      cases hfirst with
      | some hv =>
        refine ⟨⟨hkey.symm, hv⟩, ih hrest hkeys fun k => ?_⟩
        have hk := heach k
        simp only [Entries.find?, hkey] at hk
        by_cases hsame : f.1.same k
        · have hnone : Entries.find? es f.1 = none := by
            rw [Entries.find?_eq_none_iff] at hnew ⊢
            intro key hmem
            rw [Entries.keys, hkeys] at hmem
            exact hnew key hmem
          rw [← Entries.find?_congr hsame, ← Entries.find?_congr hsame, hnew, hnone]
          exact .none
        · rwa [if_neg hsame, if_neg hsame] at hk

theorem Holds.isSome_map? {s : Slot} {v : Value} (hv : h.Holds s v) :
    v.map?.isSome = (h.mappingId? s).isSome := by
  rw [Bool.eq_iff_iff]
  constructor
  · intro hmap
    obtain ⟨es, hes⟩ := Option.isSome_iff_exists.mp hmap
    obtain ⟨id, fs, rfl, hfs, -⟩ := (hv.map? hes).of_map
    rw [mappingId?_ref_isSome, hfs]
    rfl
  · intro hmapping
    cases s with
    | scalar c => cases hmapping
    | ref id =>
      rw [mappingId?_ref_isSome] at hmapping
      obtain ⟨fs, hfs⟩ := Option.isSome_iff_exists.mp hmapping
      obtain ⟨es, rfl, -⟩ := hv.of_mapping? hfs
      rfl

structure Placed (h : Heap) (slots : List Slot) : Prop where
  sound : h.Sound
  shares : ∀ s ∈ slots, h.Shares [] s

private theorem Placed.alloc {slots : List Slot} (hp : h.Placed slots) {o : Object}
    (hkeyed : o.Keyed) (hslots : o.slots = slots) : (h.alloc o).1.Placed [.ref h.fresh] := by
  refine ⟨hp.sound.alloc hkeyed (hslots ▸ hp.shares), fun s hs => ?_⟩
  rw [List.mem_singleton.mp hs]
  exact hp.sound.apart.shares_alloc o

private theorem Placed.cons {s : Slot} {slots : List Slot} (hs : h.Placed [s])
    (hslots : h'.Placed slots) (hg : h.Grows h') : h'.Placed (s :: slots) :=
  ⟨hslots.sound, List.forall_mem_cons.mpr
    ⟨(hs.shares s List.mem_cons_self).mono hg.fresh_le, hslots.shares⟩⟩

mutual

/-- A value that is put into a sound heap is held there, and the heap is sound again. -/
theorem Sound.place {h : Heap} (hh : h.Sound) (labels : List (Nat × Nat)) :
    (v : Value) → v.Plain → v.Keyed → (h.place labels v).1.Placed [(h.place labels v).2] ∧
      (h.place labels v).1.Holds (h.place labels v).2 v
  | .scalar s, _, _ => ⟨⟨hh, by simp [Heap.place, Shares]⟩, rfl⟩
  | .list items, hplain, hkeyed => by
    cases hplain with
    | list hplain =>
      cases hkeyed with
      | list hkeyed =>
        obtain ⟨hplaced, hitems⟩ := hh.placeItems labels items hplain hkeyed
        exact ⟨hplaced.alloc trivial rfl, _, get?_alloc_fresh _,
          HoldsItems.grows (grows_alloc _ _) _ _ hitems⟩
  | .tuple items, hplain, hkeyed => by
    cases hplain with
    | tuple hplain =>
      cases hkeyed with
      | tuple hkeyed =>
        obtain ⟨hplaced, hitems⟩ := hh.placeItems labels items hplain hkeyed
        exact ⟨hplaced.alloc trivial rfl, _, get?_alloc_fresh _,
          HoldsItems.grows (grows_alloc _ _) _ _ hitems⟩
  | .set ks, _, _ => by
    have hnone : h.Placed [] := ⟨hh, by simp⟩
    exact ⟨hnone.alloc (o := .set ks) trivial rfl, get?_alloc_fresh _⟩
  | .map es, hplain, hkeyed => by
    cases hplain with
    | map hplain =>
      cases hkeyed with
      | map hkeys hkeyed =>
        obtain ⟨hplaced, hes⟩ := hh.placeEntries labels es hplain hkeyed
        have hdistinct : Entries.Distinct (h.placeEntries labels es).2 := by
          rw [Entries.Distinct, ← hes.keys]
          exact hkeys
        exact ⟨hplaced.alloc (o := .mapping _) hdistinct rfl, _, mapping?_alloc _,
          HoldsEntries.grows (grows_alloc _ _) _ _ hes⟩
  | .knot _ _, hplain, _ => nomatch hplain
  | .back _ _, hplain, _ => nomatch hplain

theorem Sound.placeItems {h : Heap} (hh : h.Sound) (labels : List (Nat × Nat)) :
    (vs : List Value) → (∀ v ∈ vs, v.Plain) → (∀ v ∈ vs, v.Keyed) →
      (h.placeItems labels vs).1.Placed (h.placeItems labels vs).2 ∧
        HoldsItems (h.placeItems labels vs).1 (h.placeItems labels vs).2 vs
  | [], _, _ => ⟨⟨hh, by simp [Heap.placeItems]⟩, trivial⟩
  | v :: rest, hplain, hkeyed => by
    obtain ⟨hplain, hplains⟩ := List.forall_mem_cons.mp hplain
    obtain ⟨hkeyed, hkeyeds⟩ := List.forall_mem_cons.mp hkeyed
    obtain ⟨hplaced, hv⟩ := hh.place labels v hplain hkeyed
    obtain ⟨hplaced', hvs⟩ := hplaced.sound.placeItems labels rest hplains hkeyeds
    have hg := grows_placeItems (h.place labels v).1 labels rest
    exact ⟨hplaced.cons hplaced' hg, hv.grows hg, hvs⟩

theorem Sound.placeEntries {h : Heap} (hh : h.Sound) (labels : List (Nat × Nat)) :
    (es : List (Scalar × Value)) → (∀ e ∈ es, e.2.Plain) → (∀ e ∈ es, e.2.Keyed) →
      (h.placeEntries labels es).1.Placed ((h.placeEntries labels es).2.map Prod.snd) ∧
        HoldsEntries (h.placeEntries labels es).1 (h.placeEntries labels es).2 es
  | [], _, _ => ⟨⟨hh, by simp [Heap.placeEntries]⟩, trivial⟩
  | (k, v) :: rest, hplain, hkeyed => by
    obtain ⟨hplain, hplains⟩ := List.forall_mem_cons.mp hplain
    obtain ⟨hkeyed, hkeyeds⟩ := List.forall_mem_cons.mp hkeyed
    obtain ⟨hplaced, hv⟩ := hh.place labels v hplain hkeyed
    obtain ⟨hplaced', hes⟩ := hplaced.sound.placeEntries labels rest hplains hkeyeds
    have hg := grows_placeEntries (h.place labels v).1 labels rest
    exact ⟨hplaced.cons hplaced' hg, ⟨rfl, hv.grows hg⟩, hes⟩

end

end Heap

end SceneBook
