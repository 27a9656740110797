import SceneBook.Proofs.Results
import SceneBook.Proofs.Value.Entries
import SceneBook.Value.Heap
import Mathlib.Logic.Relation

/-!
# Objects kept apart

Some objects of a heap are kept: nothing in the heap may refer to them. The operations on a heap
that are given nothing but references to other objects leave the kept ones alone, and leave them
out of reach.
-/

namespace SceneBook

/-- What an object refers to, and the scalars in the same places. -/
def Object.slots : Object → List Slot
  | .mapping es => es.map Prod.snd
  | .sequence items | .tuple items => items
  | .set _ => []

namespace Heap

def Refers (h : Heap) (a b : Nat) : Prop := ∃ o, h.get? a = some o ∧ Slot.ref b ∈ o.slots

/-- Whether a chain of references leads from one object to another; every object reaches itself. -/
def Reaches (h : Heap) : Nat → Nat → Prop := Relation.ReflTransGen h.Refers

/-- Whether a slot may be given away: it refers to an object that is there and not kept. -/
def Shares (h : Heap) (kept : List Nat) : Slot → Prop
  | .scalar _ => True
  | .ref id => id < h.fresh ∧ id ∉ kept

instance (h : Heap) (kept : List Nat) : DecidablePred (h.Shares kept)
  | .scalar _ => isTrue trivial
  | .ref id => inferInstanceAs (Decidable (id < h.fresh ∧ id ∉ kept))

structure Apart (h : Heap) (kept : List Nat) : Prop where
  kept_lt : ∀ id ∈ kept, id < h.fresh
  shares : ∀ id o, h.get? id = some o → ∀ s ∈ o.slots, h.Shares kept s

/-- A later heap, in which the kept objects are still apart and as they were. -/
structure Follows (kept : List Nat) (h h' : Heap) : Prop where
  fresh_le : h.fresh ≤ h'.fresh
  apart : h'.Apart kept
  same : ∀ id ∈ kept, h'.get? id = h.get? id

variable {h h₁ h₂ : Heap} {kept : List Nat}

theorem Shares.mono {s : Slot} (hs : h₁.Shares kept s) (hle : h₁.fresh ≤ h₂.fresh) :
    h₂.Shares kept s := by
  cases s with
  | scalar c => trivial
  | ref id => exact ⟨Nat.lt_of_lt_of_le hs.1 hle, hs.2⟩

theorem Apart.empty : Heap.empty.Apart [] := by
  refine ⟨by simp, fun id o ho => ?_⟩
  simp [Heap.empty, get?] at ho

theorem Apart.refl (hh : h.Apart kept) : Follows kept h h := ⟨Nat.le_refl _, hh, fun _ _ => rfl⟩

theorem Follows.trans (h₁₂ : Follows kept h h₁) (h₂₃ : Follows kept h₁ h₂) : Follows kept h h₂ :=
  ⟨Nat.le_trans h₁₂.fresh_le h₂₃.fresh_le, h₂₃.apart,
    fun id hid => (h₂₃.same id hid).trans (h₁₂.same id hid)⟩

/-- Nothing that may be given away leads to a kept object. -/
theorem Apart.not_reaches (hh : h.Apart kept) {a b : Nat} (ha : h.Shares kept (.ref a))
    (hreach : h.Reaches a b) : b ∉ kept := by
  have hb : h.Shares kept (.ref b) := by
    induction hreach with
    | refl => exact ha
    | tail _ hrefers _ =>
      obtain ⟨o, ho, hmem⟩ := hrefers
      exact hh.shares _ o ho _ hmem
  exact hb.2

@[simp] theorem fresh_alloc (o : Object) : (h.alloc o).1.fresh = h.fresh + 1 := by
  simp [alloc, fresh]

@[simp] theorem fresh_write (id : Nat) (o : Object) : (h.write id o).fresh = h.fresh := by
  simp [write, fresh]

theorem get?_alloc (o : Object) (id : Nat) :
    (h.alloc o).1.get? id = if id = h.fresh then some o else h.get? id :=
  Array.getElem?_push

theorem get?_alloc_fresh (o : Object) : (h.alloc o).1.get? h.fresh = some o := by
  rw [get?_alloc, if_pos rfl]

theorem get?_alloc_of_lt (o : Object) {id : Nat} (hid : id < h.fresh) :
    (h.alloc o).1.get? id = h.get? id := by
  rw [get?_alloc, if_neg (Nat.ne_of_lt hid)]

theorem mapping?_congr {h' : Heap} {id : Nat} (hsame : h'.get? id = h.get? id) :
    h'.mapping? id = h.mapping? id := by
  simp only [Heap.mapping?, hsame]

theorem mapping?_alloc (es : Entries Slot) :
    (h.alloc (.mapping es)).1.mapping? h.fresh = some es := by
  simp [Heap.mapping?, get?_alloc]

theorem get?_write_of_ne (o : Object) {id other : Nat} (hne : other ≠ id) :
    (h.write id o).get? other = h.get? other := by
  simp only [write, get?]
  exact Array.getElem?_setIfInBounds_ne (Ne.symm hne)

theorem eq_or_get?_of_write {id other : Nat} {o found : Object}
    (hfound : (h.write id o).get? other = some found) :
    found = o ∨ h.get? other = some found := by
  by_cases heq : other = id
  · subst heq
    simp only [write, get?, Array.getElem?_setIfInBounds_self] at hfound
    split at hfound
    · exact Or.inl (Option.some.inj hfound).symm
    · cases hfound
  · exact Or.inr (by rwa [get?_write_of_ne o heq] at hfound)

theorem Apart.alloc (hh : h.Apart kept) {o : Object} (ho : ∀ s ∈ o.slots, h.Shares kept s) :
    Follows kept h (h.alloc o).1 := by
  have hle : h.fresh ≤ (h.alloc o).1.fresh := by simp
  refine ⟨hle, ⟨fun id hid => Nat.lt_of_lt_of_le (hh.kept_lt id hid) hle, ?_⟩,
    fun id hid => get?_alloc_of_lt o (hh.kept_lt id hid)⟩
  intro id found hfound s hs
  rw [get?_alloc] at hfound
  split at hfound
  · cases hfound
    exact (ho s hs).mono hle
  · exact (hh.shares id found hfound s hs).mono hle

theorem Apart.shares_alloc (hh : h.Apart kept) (o : Object) :
    (h.alloc o).1.Shares kept (.ref (h.alloc o).2) := by
  refine ⟨by simp [Heap.alloc, fresh], fun hmem => ?_⟩
  exact Nat.lt_irrefl h.fresh (hh.kept_lt _ hmem)

/-- What may be given away may be so beside a new object that is kept. -/
theorem Shares.keep_alloc {s : Slot} (hs : h.Shares kept s) (o : Object) :
    (h.alloc o).1.Shares (kept ++ [h.fresh]) s := by
  cases s with
  | scalar c => trivial
  | ref id =>
    obtain ⟨hlt, hmem⟩ := hs
    refine ⟨by simpa using Nat.lt_succ_of_lt hlt, ?_⟩
    simpa using ⟨hmem, Nat.ne_of_lt hlt⟩

theorem Apart.keep_alloc (hh : h.Apart kept) {o : Object} (ho : ∀ s ∈ o.slots, h.Shares kept s) :
    (h.alloc o).1.Apart (kept ++ [h.fresh]) := by
  constructor
  · intro id hid
    rcases List.mem_append.mp hid with hid | hid
    · exact (hh.alloc ho).apart.kept_lt id hid
    · rw [List.mem_singleton.mp hid, fresh_alloc]
      exact Nat.lt_succ_self _
  · intro id found hfound s hs
    rw [get?_alloc] at hfound
    split at hfound
    · cases hfound
      exact (ho s hs).keep_alloc _
    · exact (hh.shares id found hfound s hs).keep_alloc _

theorem Apart.write (hh : h.Apart kept) {id : Nat} {o : Object} (hid : id ∉ kept)
    (ho : ∀ s ∈ o.slots, h.Shares kept s) : Follows kept h (h.write id o) := by
  have hle : h.fresh ≤ (h.write id o).fresh := by simp
  refine ⟨hle, ⟨fun other hother => Nat.lt_of_lt_of_le (hh.kept_lt other hother) hle, ?_⟩,
    fun other hother => get?_write_of_ne o fun heq => hid (heq ▸ hother)⟩
  intro other found hfound s hs
  rcases eq_or_get?_of_write hfound with rfl | hbefore
  · exact (ho s hs).mono hle
  · exact (hh.shares other found hbefore s hs).mono hle

def Labelled (h : Heap) (kept : List Nat) (labels : List (Nat × Nat)) : Prop :=
  ∀ p ∈ labels, h.Shares kept (.ref p.2)

private theorem Labelled.mono {labels : List (Nat × Nat)} (hl : h₁.Labelled kept labels)
    (hle : h₁.fresh ≤ h₂.fresh) : h₂.Labelled kept labels :=
  fun p hp => (hl p hp).mono hle

private theorem Labelled.cons {labels : List (Nat × Nat)} (hl : h.Labelled kept labels) {l id : Nat}
    (hid : h.Shares kept (.ref id)) : h.Labelled kept ((l, id) :: labels) := by
  intro p hp
  rcases List.mem_cons.mp hp with rfl | hp
  · exact hid
  · exact hl p hp

private theorem Labelled.lookup {labels : List (Nat × Nat)} (hl : h.Labelled kept labels)
    (l : Nat) :
    h.Shares kept (((labels.lookup l).map Slot.ref).getD (.scalar .null)) := by
  induction labels with
  | nil => trivial
  | cons p rest ih =>
    rw [List.lookup_cons]
    split
    · exact hl p List.mem_cons_self
    · exact ih fun q hq => hl q (List.mem_cons_of_mem p hq)

/-- What placing leaves: a later heap, and slots in it that may be given away. -/
structure Received (kept : List Nat) (h h' : Heap) (slots : List Slot) : Prop where
  follows : Follows kept h h'
  shares : ∀ s ∈ slots, h'.Shares kept s

theorem Received.alloc {slots : List Slot} (hr : Received kept h h₁ slots) {o : Object}
    (ho : o.slots = slots) : Received kept h (h₁.alloc o).1 [.ref (h₁.alloc o).2] := by
  have hslots : ∀ s ∈ o.slots, h₁.Shares kept s := ho ▸ hr.shares
  refine ⟨hr.follows.trans (hr.follows.apart.alloc hslots), fun s hs => ?_⟩
  rw [List.mem_singleton.mp hs]
  exact hr.follows.apart.shares_alloc o

private theorem Apart.hole (hh : h.Apart kept) {labels : List (Nat × Nat)}
    (hl : h.Labelled kept labels) {hole : Object} (hhole : hole.slots = []) (l : Nat) :
    (h.alloc hole).1.Apart kept ∧
      (h.alloc hole).1.Labelled kept ((l, (h.alloc hole).2) :: labels) := by
  have hnew : Follows kept h (h.alloc hole).1 := hh.alloc (by simp [hhole])
  exact ⟨hnew.apart, (hl.mono hnew.fresh_le).cons (hh.shares_alloc hole)⟩

private theorem Received.tie (hh : h.Apart kept) {hole o : Object} (hhole : hole.slots = [])
    {slots : List Slot} (hr : Received kept (h.alloc hole).1 h₁ slots) (ho : o.slots = slots) :
    Received kept h (h₁.write h.fresh o) [.ref h.fresh] := by
  have hslots : ∀ s ∈ o.slots, h₁.Shares kept s := ho ▸ hr.shares
  have hid : h₁.Shares kept (.ref h.fresh) := (hh.shares_alloc hole).mono hr.follows.fresh_le
  have hfilled := hr.follows.apart.write hid.2 hslots
  have hempty : Follows kept h (h.alloc hole).1 := hh.alloc (by simp [hhole])
  refine ⟨hempty.trans (hr.follows.trans hfilled), fun s hs => ?_⟩
  rw [List.mem_singleton.mp hs]
  exact hid.mono hfilled.fresh_le

mutual

/-- The parts of a placed value refer to each other and to what the labels stand for, and so to no
object that is kept. -/
theorem Apart.place {h : Heap} (hh : h.Apart kept) {labels : List (Nat × Nat)}
    (hl : h.Labelled kept labels) :
    (v : Value) → Received kept h (h.place labels v).1 [(h.place labels v).2]
  | .scalar s => ⟨hh.refl, by simp [Heap.place, Shares]⟩
  | .list items => (hh.placeItems hl items).alloc rfl
  | .tuple items => (hh.placeItems hl items).alloc rfl
  | .set ks => by
    have hnone : Received kept h h [] := ⟨hh.refl, by simp⟩
    exact hnone.alloc rfl
  | .map es => (hh.placeEntries hl es).alloc rfl
  | .knot l (.list items) => by
    obtain ⟨hnew, hlabels⟩ := hh.hole hl (rfl : (Object.sequence []).slots = []) l
    exact Received.tie hh rfl (hnew.placeItems hlabels items) rfl
  | .knot l (.tuple items) => by
    obtain ⟨hnew, hlabels⟩ := hh.hole hl (rfl : (Object.tuple []).slots = []) l
    exact Received.tie hh rfl (hnew.placeItems hlabels items) rfl
  | .knot l (.map es) => by
    obtain ⟨hnew, hlabels⟩ := hh.hole hl (rfl : (Object.mapping []).slots = []) l
    exact Received.tie hh rfl (hnew.placeEntries hlabels es) rfl
  -- Only a collection can lead back to itself, so that any other body is placed without its label.
  | .knot _ (.scalar s) => hh.place hl (.scalar s)
  | .knot _ (.set ks) => hh.place hl (.set ks)
  | .knot _ (.knot l b) => hh.place hl (.knot l b)
  | .knot _ (.back l m) => hh.place hl (.back l m)
  | .back l _ => ⟨hh.refl, by simpa [Heap.place] using hl.lookup l⟩

theorem Apart.placeItems {h : Heap} (hh : h.Apart kept) {labels : List (Nat × Nat)}
    (hl : h.Labelled kept labels) :
    (vs : List Value) → Received kept h (h.placeItems labels vs).1 (h.placeItems labels vs).2
  | [] => ⟨hh.refl, by simp [Heap.placeItems]⟩
  | v :: rest => by
    have hfirst := hh.place hl v
    have hrest := hfirst.follows.apart.placeItems (hl.mono hfirst.follows.fresh_le) rest
    refine ⟨hfirst.follows.trans hrest.follows, fun s hs => ?_⟩
    rcases List.mem_cons.mp hs with rfl | hs
    · exact (hfirst.shares _ List.mem_cons_self).mono hrest.follows.fresh_le
    · exact hrest.shares s hs

theorem Apart.placeEntries {h : Heap} (hh : h.Apart kept) {labels : List (Nat × Nat)}
    (hl : h.Labelled kept labels) :
    (es : List (Scalar × Value)) → Received kept h (h.placeEntries labels es).1
      ((h.placeEntries labels es).2.map Prod.snd)
  | [] => ⟨hh.refl, by simp [Heap.placeEntries]⟩
  | (k, v) :: rest => by
    have hfirst := hh.place hl v
    have hrest := hfirst.follows.apart.placeEntries (hl.mono hfirst.follows.fresh_le) rest
    refine ⟨hfirst.follows.trans hrest.follows, fun s hs => ?_⟩
    rcases List.mem_cons.mp hs with rfl | hs
    · exact (hfirst.shares _ List.mem_cons_self).mono hrest.follows.fresh_le
    · exact hrest.shares s hs

end

/-- A value from outside may be given away once it is in the heap. -/
theorem Apart.add (hh : h.Apart kept) (v : Value) :
    Received kept h (h.add v).1 [(h.add v).2] :=
  hh.place (by simp [Labelled]) v

theorem Apart.mapping? (hh : h.Apart kept) {id : Nat} {es : Entries Slot}
    (hes : h.mapping? id = some es) : ∀ s ∈ es.map Prod.snd, h.Shares kept s := by
  unfold Heap.mapping? at hes
  split at hes
  · next found hget =>
    cases hes
    exact hh.shares id _ hget
  · cases hes

theorem Apart.sequence? (hh : h.Apart kept) {id : Nat} {items : List Slot}
    (hitems : h.sequence? id = some items) : ∀ s ∈ items, h.Shares kept s := by
  unfold Heap.sequence? at hitems
  split at hitems
  · next found hget =>
    cases hitems
    exact hh.shares id _ hget
  · cases hitems

theorem Apart.append (hh : h.Apart kept) {id : Nat} {items : List Slot} {s : Slot}
    (hitems : h.sequence? id = some items) (hid : h.Shares kept (.ref id))
    (hs : Received kept h h₁ [s]) :
    Follows kept h (h₁.write id (.sequence (items ++ [s]))) := by
  have hold := hh.sequence? hitems
  have hwrite := hs.follows.apart.write (o := .sequence (items ++ [s])) hid.2 (by
    intro t ht
    rcases List.mem_append.mp ht with ht | ht
    · exact (hold t ht).mono hs.follows.fresh_le
    · exact hs.shares t ht)
  exact hs.follows.trans hwrite

private theorem shares_scalars {α : Type} (f : α → Scalar) (as : List α) :
    ∀ s ∈ as.map (fun a => Slot.scalar (f a)), h.Shares kept s := by
  intro s hs
  obtain ⟨a, _, rfl⟩ := List.mem_map.mp hs
  trivial

private theorem Apart.parts (hh : h.Apart kept) {s : Slot} {ps : List Slot}
    (hps : h.parts s = .ok ps) :
    ∀ p ∈ ps, h.Shares kept p := by
  unfold Heap.parts at hps
  split at hps
  · cases hps
    exact shares_scalars _ _
  · cases hps
    exact shares_scalars _ _
  · cases hps
  · next id =>
    split at hps
    · next items hget =>
      cases hps
      exact hh.shares id _ hget
    · next items hget =>
      cases hps
      exact hh.shares id _ hget
    · cases hps
      exact shares_scalars _ _
    · cases hps
      exact shares_scalars _ _
    · cases hps

private theorem Apart.addPairs (hh : h.Apart kept) {es found : Entries Slot} {pairs : List Slot}
    (hes : ∀ s ∈ es.map Prod.snd, h.Shares kept s)
    (hfound : Entries.addPairs h.parts Slot.key? es pairs = .ok found) :
    ∀ s ∈ found.map Prod.snd, h.Shares kept s := by
  induction pairs generalizing es with
  | nil =>
    cases hfound
    exact hes
  | cons p rest ih =>
    rw [Entries.addPairs, bind_eq_ok_iff] at hfound
    obtain ⟨ps, hps, hfound⟩ := hfound
    split at hfound
    · next k v =>
      obtain ⟨key, _, hfound⟩ := bind_eq_ok_iff.mp hfound
      refine ih (fun s hs => ?_) hfound
      rcases Entries.mem_put hs with rfl | hs
      · exact hh.parts hps _ (by simp)
      · exact hes s hs
    · cases hfound

theorem Apart.entries (hh : h.Apart kept) {s : Slot} {es : Entries Slot}
    (hes : h.entries s = .ok es) : ∀ t ∈ es.map Prod.snd, h.Shares kept t := by
  unfold Heap.entries at hes
  split at hes
  · next found hfound =>
    cases hes
    obtain ⟨id, _, hmapping⟩ := Option.bind_eq_some_iff.mp hfound
    exact hh.mapping? hmapping
  · obtain ⟨ps, _, hes⟩ := bind_eq_ok_iff.mp hes
    exact hh.addPairs (by simp) hes

end Heap

end SceneBook
