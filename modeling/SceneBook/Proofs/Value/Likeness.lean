import SceneBook.Proofs.Value.Links
import Mathlib.Data.List.Forall2

/-!
# Heaps alike

Objects of two heaps are related one to one, and related objects are alike: they hold the same
scalars, and related objects in the same places. Whatever is done to both heaps through related
objects only leaves them alike, and touches no other object.
-/

namespace SceneBook

variable {R R' R'' : Nat → Nat → Prop}

def Slot.Like (R : Nat → Nat → Prop) : Slot → Slot → Prop
  | .scalar a, .scalar b => a = b
  | .ref a, .ref b => R a b
  | _, _ => False

abbrev Entries.Like (R : Nat → Nat → Prop) : Entries Slot → Entries Slot → Prop :=
  List.Forall₂ fun e f => e.1 = f.1 ∧ Slot.Like R e.2 f.2

namespace Object

inductive Like (R : Nat → Nat → Prop) : Object → Object → Prop
  | mapping {es fs : Entries Slot} (h : Entries.Like R es fs) : Like R (.mapping es) (.mapping fs)
  | sequence {items others : List Slot} (h : List.Forall₂ (Slot.Like R) items others) :
      Like R (.sequence items) (.sequence others)
  | tuple {items others : List Slot} (h : List.Forall₂ (Slot.Like R) items others) :
      Like R (.tuple items) (.tuple others)
  | set (ks : List Scalar) : Like R (.set ks) (.set ks)

/-- How an object may change: a mapping or a list to another of its kind, and nothing else. -/
inductive Becomes : Object → Object → Prop
  | refl (o : Object) : Becomes o o
  | mapping (es fs : Entries Slot) : Becomes (.mapping es) (.mapping fs)
  | sequence (items others : List Slot) : Becomes (.sequence items) (.sequence others)

def Changeable : Object → Prop
  | .mapping _ | .sequence _ => True
  | .tuple _ | .set _ => False

private theorem Becomes.trans {o p q : Object} (hop : o.Becomes p) (hpq : p.Becomes q) :
    o.Becomes q := by
  cases hop with
  | refl => exact hpq
  | mapping es fs =>
    cases hpq with
    | refl => exact .mapping es fs
    | mapping _ gs => exact .mapping es gs
  | sequence items others =>
    cases hpq with
    | refl => exact .sequence items others
    | sequence _ more => exact .sequence items more

private theorem Becomes.eq {o p : Object} (hop : o.Becomes p) (ho : ¬ o.Changeable) : p = o := by
  cases hop with
  | refl => rfl
  | mapping => exact absurd trivial ho
  | sequence => exact absurd trivial ho

end Object

theorem Slot.Like.mono (hle : ∀ a b, R a b → R' a b) {s t : Slot} (hst : Slot.Like R s t) :
    Slot.Like R' s t := by
  cases s with
  | scalar a => cases t <;> exact hst
  | ref a =>
    cases t with
    | scalar b => exact hst
    | ref b => exact hle a b hst

namespace Entries

variable {es fs : Entries Slot}

private theorem Like.mono (hle : ∀ a b, R a b → R' a b) (h : Like R es fs) : Like R' es fs :=
  h.imp fun _ _ hef => ⟨hef.1, hef.2.mono hle⟩

theorem Like.find? (h : Like R es fs) (k : Scalar) :
    Option.Rel (Slot.Like R) (es.find? k) (fs.find? k) := by
  induction h with
  | nil => exact .none
  | @cons e f _ _ hef _ ih =>
    simp only [Entries.find?, hef.1]
    split
    · exact .some hef.2
    · exact ih

theorem Like.put (h : Like R es fs) (k : Scalar) {s t : Slot} (hst : Slot.Like R s t) :
    Like R (es.put k s) (fs.put k t) := by
  induction h with
  | nil => exact .cons ⟨rfl, hst⟩ .nil
  | @cons e f _ _ hef hrest ih =>
    simp only [Entries.put, hef.1]
    split
    · exact .cons ⟨rfl, hst⟩ hrest
    · exact .cons ⟨rfl, hef.2⟩ ih

end Entries

private theorem Object.Like.mono (hle : ∀ a b, R a b → R' a b) {o p : Object}
    (hop : Object.Like R o p) :
    Object.Like R' o p := by
  cases hop with
  | mapping h => exact .mapping (h.mono hle)
  | sequence h => exact .sequence (h.imp fun _ _ => Slot.Like.mono hle)
  | tuple h => exact .tuple (h.imp fun _ _ => Slot.Like.mono hle)
  | set ks => exact .set ks

namespace Heap

/-- Related objects are there in both heaps and are alike. -/
structure Alike (R : Nat → Nat → Prop) (h g : Heap) : Prop where
  unique : Relator.BiUnique R
  objects : ∀ a b, R a b → ∃ o p, h.get? a = some o ∧ g.get? b = some p ∧ Object.Like R o p

/-- A later heap, in which no object of the earlier one has changed but those told, and all are of
the kind they were of. -/
structure Works (touched : Nat → Prop) (h h' : Heap) : Prop where
  fresh_le : h.fresh ≤ h'.fresh
  becomes : ∀ id o, h.get? id = some o → ∃ o', h'.get? id = some o' ∧ o.Becomes o'
  elsewhere : ∀ id < h.fresh, ¬ touched id → h'.get? id = h.get? id

/-- Two heaps that were alike and are so again, after work on related and on new objects. -/
structure Parallel (R : Nat → Nat → Prop) (h g : Heap) (R' : Nat → Nat → Prop) (h' g' : Heap) :
    Prop where
  keeps : ∀ a b, R a b → R' a b
  new : ∀ a b, R' a b → R a b ∨ h.fresh ≤ a ∧ g.fresh ≤ b
  alike : Alike R' h' g'
  left : Works (fun a => ∃ b, R a b) h h'
  right : Works (fun b => ∃ a, R a b) g g'

variable {h h' h'' g g' g'' : Heap} {a b : Nat}

theorem Alike.congr (ha : Alike R h g)
    (hsame : ∀ a b, R a b → h'.get? a = h.get? a ∧ g'.get? b = g.get? b) : Alike R h' g' := by
  refine ⟨ha.unique, fun a b hab => ?_⟩
  obtain ⟨o, p, ho, hp, hop⟩ := ha.objects a b hab
  exact ⟨o, p, (hsame a b hab).1.trans ho, (hsame a b hab).2.trans hp, hop⟩

private theorem Alike.lt_fresh (ha : Alike R h g) (hab : R a b) : a < h.fresh ∧ b < g.fresh := by
  obtain ⟨o, p, ho, hp, -⟩ := ha.objects a b hab
  exact ⟨lt_fresh_of_get? ho, lt_fresh_of_get? hp⟩

theorem Alike.mapping? (ha : Alike R h g) (hab : R a b) :
    Option.Rel (Entries.Like R) (h.mapping? a) (g.mapping? b) := by
  obtain ⟨o, p, ho, hp, hop⟩ := ha.objects a b hab
  simp only [Heap.mapping?, ho, hp]
  cases hop with
  | mapping hes => exact .some hes
  | _ => exact .none

theorem Alike.sequence? (ha : Alike R h g) (hab : R a b) :
    Option.Rel (List.Forall₂ (Slot.Like R)) (h.sequence? a) (g.sequence? b) := by
  obtain ⟨o, p, ho, hp, hop⟩ := ha.objects a b hab
  simp only [Heap.sequence?, ho, hp]
  cases hop with
  | sequence hitems => exact .some hitems
  | _ => exact .none

theorem Alike.entries? (ha : Alike R h g) {s t : Slot} (hst : Slot.Like R s t) :
    Option.Rel (Entries.Like R) ((h.mappingId? s).bind h.mapping?)
      ((g.mappingId? t).bind g.mapping?) := by
  cases s <;> cases t
  case scalar.scalar => exact .none
  case ref.ref a b =>
    rw [mappingId?_bind_ref, mappingId?_bind_ref]
    exact ha.mapping? hst
  all_goals exact hst.elim

theorem Works.refl (touched : Nat → Prop) (h : Heap) : Works touched h h :=
  ⟨Nat.le_refl _, fun _ o ho => ⟨o, ho, .refl o⟩, fun _ _ _ => rfl⟩

theorem Works.trans {touched touched' : Nat → Prop} (h₁ : Works touched h h')
    (h₂ : Works touched' h' h'') (hsub : ∀ id < h.fresh, touched' id → touched id) :
    Works touched h h'' := by
  refine ⟨Nat.le_trans h₁.fresh_le h₂.fresh_le, fun id o ho => ?_, fun id hid hout => ?_⟩
  · obtain ⟨o', ho', hbecomes⟩ := h₁.becomes id o ho
    obtain ⟨o'', ho'', hbecomes'⟩ := h₂.becomes id o' ho'
    exact ⟨o'', ho'', hbecomes.trans hbecomes'⟩
  · have hlater := h₂.elsewhere id (Nat.lt_of_lt_of_le hid h₁.fresh_le) fun hin =>
      hout (hsub id hid hin)
    exact hlater.trans (h₁.elsewhere id hid hout)

theorem Grows.works (hg : h.Grows h') (touched : Nat → Prop) : Works touched h h' :=
  ⟨hg.fresh_le, fun _ o ho => ⟨o, hg.get? ho, .refl o⟩, fun id hid _ => hg.same id hid⟩

theorem Works.write {touched : Nat → Prop} (hw : Works touched h h') {o : Object}
    (htouched : a < h.fresh → touched a) (hold : ∀ old, h.get? a = some old → old.Becomes o) :
    Works touched h (h'.write a o) := by
  refine ⟨by simpa using hw.fresh_le, fun id old hget => ?_, fun id hid hout => ?_⟩
  · obtain ⟨o', ho', hbecomes⟩ := hw.becomes id old hget
    by_cases heq : id = a
    · subst heq
      exact ⟨o, get?_write_self (lt_fresh_of_get? ho') o, hold old hget⟩
    · exact ⟨o', (get?_write_of_ne o heq).trans ho', hbecomes⟩
  · have hne : id ≠ a := by
      rintro rfl
      exact hout (htouched hid)
    exact (get?_write_of_ne o hne).trans (hw.elsewhere id hid hout)

/-- An object that cannot be changed, or was not to be, is as it was. -/
theorem Works.get?_eq {touched : Nat → Prop} (hw : Works touched h h') {o : Object}
    (ho : h.get? a = some o) (hspared : touched a → ¬ o.Changeable) : h'.get? a = some o := by
  by_cases htouched : touched a
  · obtain ⟨o', ho', hbecomes⟩ := hw.becomes a o ho
    rw [ho', hbecomes.eq (hspared htouched)]
  · rw [hw.elsewhere a (lt_fresh_of_get? ho) htouched, ho]

theorem Works.isSome_mapping? {touched : Nat → Prop} (hw : Works touched h h')
    (hmapping : (h.mapping? a).isSome) : (h'.mapping? a).isSome := by
  obtain ⟨es, hes⟩ := Option.isSome_iff_exists.mp hmapping
  obtain ⟨o', ho', hbecomes⟩ := hw.becomes a _ (mapping?_eq_some_iff.mp hes)
  cases hbecomes with
  | refl => exact Option.isSome_of_eq_some (mapping?_eq_some_iff.mpr ho')
  | mapping _ fs => exact Option.isSome_of_eq_some (mapping?_eq_some_iff.mpr ho')

theorem Parallel.refl (ha : Alike R h g) : Parallel R h g R h g :=
  ⟨fun _ _ hab => hab, fun _ _ hab => Or.inl hab, ha, .refl _ h, .refl _ g⟩

theorem Parallel.trans (h₁ : Parallel R h g R' h' g') (h₂ : Parallel R' h' g' R'' h'' g'') :
    Parallel R h g R'' h'' g'' := by
  refine ⟨fun a b hab => h₂.keeps a b (h₁.keeps a b hab), fun a b hab => ?_, h₂.alike,
    h₁.left.trans h₂.left fun a ha => ?_, h₁.right.trans h₂.right fun b hb => ?_⟩
  · rcases h₂.new a b hab with hab | ⟨ha, hb⟩
    · exact h₁.new a b hab
    · exact Or.inr ⟨Nat.le_trans h₁.left.fresh_le ha, Nat.le_trans h₁.right.fresh_le hb⟩
  · rintro ⟨b, hab⟩
    rcases h₁.new a b hab with hab | ⟨hle, -⟩
    · exact ⟨b, hab⟩
    · omega
  · rintro ⟨a, hab⟩
    rcases h₁.new a b hab with hab | ⟨-, hle⟩
    · exact ⟨a, hab⟩
    · omega

/-- Objects that are alike, made new in both heaps, are related from then on. -/
theorem Alike.alloc (ha : Alike R h g) {o p : Object} (hop : Object.Like R o p) :
    ∃ R', Parallel R h g R' (h.alloc o).1 (g.alloc p).1 ∧ R' h.fresh g.fresh := by
  let R' (a b : Nat) : Prop := R a b ∨ a = h.fresh ∧ b = g.fresh
  have hle (a b : Nat) (hab : R a b) : R' a b := Or.inl hab
  refine ⟨R', ⟨hle, fun a b hab => ?_, ⟨⟨fun a b c hac hbc => ?_, fun a b c hab hac => ?_⟩,
    fun a b hab => ?_⟩, (grows_alloc h o).works _, (grows_alloc g p).works _⟩, Or.inr ⟨rfl, rfl⟩⟩
  · rcases hab with hab | ⟨rfl, rfl⟩
    · exact Or.inl hab
    · exact Or.inr ⟨Nat.le_refl _, Nat.le_refl _⟩
  · rcases hac with hac | ⟨rfl, rfl⟩ <;> rcases hbc with hbc | ⟨rfl, hc⟩
    · exact ha.unique.1 hac hbc
    · exact absurd (ha.lt_fresh hac).2 (by omega)
    · exact absurd (ha.lt_fresh hbc).2 (by omega)
    · rfl
  · rcases hab with hab | ⟨rfl, rfl⟩ <;> rcases hac with hac | ⟨ha', rfl⟩
    · exact ha.unique.2 hab hac
    · exact absurd (ha.lt_fresh hab).1 (by omega)
    · exact absurd (ha.lt_fresh hac).1 (by omega)
    · rfl
  · rcases hab with hab | ⟨rfl, rfl⟩
    · obtain ⟨o', p', ho', hp', hop'⟩ := ha.objects a b hab
      exact ⟨o', p', (grows_alloc h o).get? ho', (grows_alloc g p).get? hp', hop'.mono hle⟩
    · exact ⟨o, p, by simp [get?_alloc], by simp [get?_alloc], hop.mono hle⟩

/-- Related objects may be written to, in such a way as is allowed for those there were at first. -/
theorem Parallel.write (hp : Parallel R h g R' h' g') {o p : Object} (hab : R' a b)
    (hop : Object.Like R' o p) (hleft : ∀ old, h.get? a = some old → old.Becomes o)
    (hright : ∀ old, g.get? b = some old → old.Becomes p) :
    Parallel R h g R' (h'.write a o) (g'.write b p) := by
  obtain ⟨ha, hb⟩ := hp.alike.lt_fresh hab
  refine ⟨hp.keeps, hp.new, ⟨hp.alike.unique, fun x y hxy => ?_⟩,
    hp.left.write (fun hlt => ?_) hleft, hp.right.write (fun hlt => ?_) hright⟩
  · by_cases heq : x = a
    · subst heq
      obtain rfl := hp.alike.unique.2 hab hxy
      exact ⟨o, p, get?_write_self ha o, get?_write_self hb p, hop⟩
    · have hne : y ≠ b := by
        rintro rfl
        exact heq (hp.alike.unique.1 hxy hab)
      obtain ⟨o', p', ho', hp', hop'⟩ := hp.alike.objects x y hxy
      exact ⟨o', p', (get?_write_of_ne o heq).trans ho', (get?_write_of_ne p hne).trans hp', hop'⟩
  · rcases hp.new a b hab with hab | ⟨hle, -⟩
    · exact ⟨b, hab⟩
    · omega
  · rcases hp.new a b hab with hab | ⟨-, hle⟩
    · exact ⟨a, hab⟩
    · omega

end Heap

end SceneBook
