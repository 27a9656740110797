import SceneBook.Proofs.Value.Likeness

/-!
# Regions of a heap

A region is separate from another one when they have no object in common that can be changed. Work
on one of them then leaves the other as it is, and what it adds is in neither.
-/

namespace SceneBook

variable {R R' : Nat → Nat → Prop} {S T : Nat → Prop} {h h' g g' : Heap}

namespace Heap

abbrev Domain (R : Nat → Nat → Prop) (a : Nat) : Prop := ∃ b, R a b

def Within (S : Nat → Prop) (a b : Nat) : Prop := a = b ∧ S a

def Changeable (h : Heap) (id : Nat) : Prop := ∃ o, h.get? id = some o ∧ o.Changeable

/-- Whether no object that can be changed is in both regions. -/
def Separate (h : Heap) (S T : Nat → Prop) : Prop := ∀ id, S id → T id → ¬ h.Changeable id

def Leads (h : Heap) (slots : List Slot) (id : Nat) : Prop :=
  ∃ a, Slot.ref a ∈ slots ∧ h.Reaches a id

theorem Separate.symm (hsep : Separate h S T) : Separate h T S := fun id ht hs => hsep id hs ht

end Heap

open Heap

def Slot.isIn (ids : List Nat) : Slot → Bool
  | .scalar _ => true
  | .ref id => ids.contains id

private theorem Slot.like_within {s : Slot} (hs : ∀ a, s = .ref a → S a) :
    Slot.Like (Within S) s s := by
  cases s with
  | scalar c => rfl
  | ref a => exact ⟨rfl, hs a rfl⟩

theorem Slot.Like.within {s t : Slot} (hst : Slot.Like R s t) :
    Slot.Like (Within (Domain R)) s s := by
  refine Slot.like_within fun a ha => ?_
  subst ha
  cases t with
  | scalar c => exact hst.elim
  | ref b => exact ⟨b, hst⟩

private theorem Object.like_within {o : Object} (ho : ∀ b, Slot.ref b ∈ o.slots → S b) :
    Object.Like (Within S) o o := by
  have hsame {items : List Slot} (hitems : ∀ b, Slot.ref b ∈ items → S b) :
      List.Forall₂ (Slot.Like (Within S)) items items :=
    List.forall₂_same.mpr fun s hs => Slot.like_within fun a ha => hitems a (ha ▸ hs)
  cases o with
  | mapping es =>
    refine .mapping (List.forall₂_same.mpr fun e he => ⟨rfl, Slot.like_within fun a ha => ?_⟩)
    exact ho a (ha ▸ List.mem_map_of_mem he)
  | sequence items => exact .sequence (hsame ho)
  | tuple items => exact .tuple (hsame ho)
  | set ks => exact .set ks

private theorem Object.Like.domain {o p : Object} (hop : Object.Like R o p) :
    ∀ b, Slot.ref b ∈ o.slots → Domain R b := by
  have hmem {items others : List Slot} (hitems : List.Forall₂ (Slot.Like R) items others) :
      ∀ b, Slot.ref b ∈ items → Domain R b := by
    intro b hb
    induction hitems with
    | nil => cases hb
    | @cons s t _ _ hst _ ih =>
      rcases List.mem_cons.mp hb with rfl | hb
      · cases t with
        | scalar c => exact hst.elim
        | ref b' => exact ⟨b', hst⟩
      · exact ih hb
  cases hop with
  | mapping hes =>
    exact hmem (List.forall₂_map_left_iff.mpr (List.forall₂_map_right_iff.mpr
      (hes.imp fun _ _ hef => hef.2)))
  | sequence hitems => exact hmem hitems
  | tuple hitems => exact hmem hitems
  | set ks => exact hmem .nil

namespace Heap

/-- A region whose objects are there and refer to nothing outside of it is alike to itself. -/
theorem alike_within (hS : ∀ a, S a → ∃ o, h.get? a = some o ∧ ∀ b, .ref b ∈ o.slots → S b) :
    Alike (Within S) h h := by
  refine ⟨⟨fun a b c hac hbc => hac.1.trans hbc.1.symm,
    fun a b c hab hac => hab.1.symm.trans hac.1⟩, ?_⟩
  rintro a _ ⟨rfl, ha⟩
  obtain ⟨o, ho, hclosed⟩ := hS a ha
  exact ⟨o, o, ho, ho, Object.like_within hclosed⟩

theorem Alike.within (ha : Alike R h g) : Alike (Within (Domain R)) h h := by
  refine alike_within fun a hdomain => ?_
  obtain ⟨b, hab⟩ := hdomain
  obtain ⟨o, p, ho, -, hop⟩ := ha.objects a b hab
  exact ⟨o, ho, hop.domain⟩

theorem Alike.exists_get? (ha : Alike R h g) {a : Nat} (hdomain : Domain R a) :
    ∃ o, h.get? a = some o := by
  obtain ⟨b, hab⟩ := hdomain
  obtain ⟨o, p, ho, -, -⟩ := ha.objects a b hab
  exact ⟨o, ho⟩

theorem domain_within {a : Nat} : Domain (Within S) a ↔ S a := by
  constructor
  · rintro ⟨_, rfl, ha⟩
    exact ha
  · intro ha
    exact ⟨a, rfl, ha⟩

theorem like_leads {slots : List Slot} {s : Slot} (hs : s ∈ slots) :
    Slot.Like (Within (h.Leads slots)) s s :=
  Slot.like_within fun a ha => ⟨a, ha ▸ hs, .refl⟩

/-- What some slots lead to refers to nothing that they do not lead to. -/
theorem alike_leads {slots : List Slot} (hh : h.Apart []) (hslots : ∀ s ∈ slots, h.Shares [] s) :
    Alike (Within (h.Leads slots)) h h := by
  refine alike_within fun a hled => ?_
  obtain ⟨start, hmem, hreach⟩ := hled
  have hshares : h.Shares [] (.ref a) := by
    induction hreach with
    | refl => exact hslots _ hmem
    | tail _ hrefers _ =>
      obtain ⟨o, ho, hin⟩ := hrefers
      exact hh.shares _ o ho _ hin
  obtain ⟨o, ho⟩ : ∃ o, h.get? a = some o := ⟨_, Array.getElem?_eq_getElem hshares.1⟩
  exact ⟨o, ho, fun b hb => ⟨start, hmem, hreach.tail ⟨o, ho, hb⟩⟩⟩

/-- A list of objects that has all that some slots refer to, and all that its objects refer to, has
all that the slots lead to. -/
theorem Leads.mem_of_all {slots : List Slot} {ids : List Nat} {id : Nat} (hid : h.Leads slots id)
    (hslots : slots.all (Slot.isIn ids))
    (hclosed : ids.all fun a => (h.get? a).all fun o => o.slots.all (Slot.isIn ids)) :
    id ∈ ids := by
  obtain ⟨a, hmem, hreach⟩ := hid
  induction hreach with
  | refl => exact List.contains_iff_mem.mp (List.all_eq_true.mp hslots _ hmem)
  | tail _ hrefers ih =>
    obtain ⟨o, ho, hin⟩ := hrefers
    have hall := List.all_eq_true.mp hclosed _ ih
    rw [ho] at hall
    exact List.contains_iff_mem.mp (List.all_eq_true.mp hall _ hin)

private theorem Works.spares (hw : Works T h h') (hsep : Separate h S T) {a : Nat} (hS : S a)
    {o : Object} (ho : h.get? a = some o) : h'.get? a = h.get? a := by
  rw [hw.get?_eq ho fun hT hchange => hsep a hS hT ⟨o, ho, hchange⟩, ho]

theorem Alike.spared (ha : Alike R h g) (hw : Works T h h') (hsep : Separate h (Domain R) T) :
    Alike R h' g := by
  refine ha.congr fun a b hab => ⟨?_, rfl⟩
  obtain ⟨o, ho⟩ := ha.exists_get? ⟨b, hab⟩
  exact hw.spares hsep ⟨b, hab⟩ ho

theorem Alike.spared_within (ha : Alike (Within S) h h) (hw : Works T h h')
    (hsep : Separate h S T) : Alike (Within S) h' h' := by
  have hsame (a : Nat) (hS : S a) : h'.get? a = h.get? a := by
    obtain ⟨o, ho⟩ := ha.exists_get? (domain_within.mpr hS)
    exact hw.spares hsep hS ho
  refine ha.congr ?_
  rintro a _ ⟨rfl, hS⟩
  exact ⟨hsame a hS, hsame a hS⟩

/-- Regions stay separate: what work on one adds to it is new, and so not in the other. -/
theorem Separate.parallel (hsep : Separate h S (Domain R)) (hp : Parallel R h g R' h' g')
    (hthere : ∀ a, S a → ∃ o, h.get? a = some o) : Separate h' S (Domain R') := by
  rintro a hS ⟨b, hab⟩ ⟨o', ho', hchange⟩
  obtain ⟨o, ho⟩ := hthere a hS
  rcases hp.new a b hab with hab | ⟨hle, -⟩
  · rw [hp.left.spares hsep hS ho] at ho'
    exact hsep a hS ⟨b, hab⟩ ⟨o', ho', hchange⟩
  · have hlt := lt_fresh_of_get? ho
    omega

end Heap

end SceneBook
