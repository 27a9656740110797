import SceneBook.Proofs.Value.Growth

/-!
# Links between mappings

A link says that a mapping holds an object under a key. It stands until something else is put under
that key of that mapping; new objects, longer lists and all other writes leave it. The writes to a
mapping, one after the other, give the entries that it has in the end.
-/

namespace SceneBook

structure Link where
  holder : Nat
  key : Scalar
  held : Nat

structure Write where
  holder : Nat
  key : Scalar
  slot : Slot

def Link.Holds (h : Heap) (l : Link) : Prop :=
  ∃ es, h.mapping? l.holder = some es ∧ es.find? l.key = some (.ref l.held)

/-- Whether a write leaves a link: it goes to another mapping or under another key, or puts the same
object there again. -/
def Write.Spares (w : Write) (l : Link) : Prop :=
  w.holder = l.holder → w.key.same l.key → w.slot = .ref l.held

instance (w : Write) (l : Link) : Decidable (w.Spares l) :=
  inferInstanceAs (Decidable (w.holder = l.holder → w.key.same l.key → w.slot = .ref l.held))

def writesTo (id : Nat) (writes : List Write) : List Write :=
  writes.filter fun w => w.holder = id

private theorem writesTo_append (id : Nat) (writes₁ writes₂ : List Write) :
    writesTo id (writes₁ ++ writes₂) = writesTo id writes₁ ++ writesTo id writes₂ :=
  List.filter_append ..

namespace Entries

def written (es : Entries Slot) (writes : List Write) : Entries Slot :=
  writes.foldl (fun es w => es.put w.key w.slot) es

private theorem written_append (es : Entries Slot) (writes₁ writes₂ : List Write) :
    es.written (writes₁ ++ writes₂) = (es.written writes₁).written writes₂ :=
  List.foldl_append ..

private theorem find?_written {es : Entries Slot} {writes : List Write} {k : Scalar} {s : Slot}
    (hfind : es.find? k = some s) (hwrites : ∀ w ∈ writes, w.key.same k → w.slot = s) :
    (es.written writes).find? k = some s := by
  induction writes generalizing es with
  | nil => exact hfind
  | cons w rest ih =>
    obtain ⟨hfirst, hrest⟩ := List.forall_mem_cons.mp hwrites
    refine ih ?_ hrest
    rw [find?_put]
    split
    · next hsame => rw [hfirst hsame]
    · exact hfind

end Entries

namespace Heap

/-- A later heap, in which mappings are still mappings, and every link stands that all the writes
in between have left. -/
structure Changes (writes : List Write) (h h' : Heap) : Prop where
  mappings : ∀ id, (h.mapping? id).isSome → (h'.mapping? id).isSome
  links : ∀ l : Link, l.Holds h → (∀ w ∈ writes, w.Spares l) → l.Holds h'

variable {h h₁ h₂ : Heap} {writes writes₁ writes₂ : List Write}

/-- A later heap, in which every mapping has the entries that it had with all that the writes in
between have put there. -/
def Rewrites (writes : List Write) (h h' : Heap) : Prop :=
  ∀ id es, h.mapping? id = some es → h'.mapping? id = some (es.written (writesTo id writes))

theorem Rewrites.refl (h : Heap) : Rewrites [] h h := fun _ _ hes => hes

theorem Rewrites.trans (h₁₂ : Rewrites writes₁ h h₁) (h₂₃ : Rewrites writes₂ h₁ h₂) :
    Rewrites (writes₁ ++ writes₂) h h₂ := by
  intro id es hes
  have hafter := h₂₃ id _ (h₁₂ id es hes)
  rwa [← Entries.written_append, ← writesTo_append] at hafter

theorem Rewrites.changes (hrewrites : Rewrites writes h h₁) : Changes writes h h₁ := by
  constructor
  · intro id hid
    obtain ⟨es, hes⟩ := Option.isSome_iff_exists.mp hid
    exact Option.isSome_of_eq_some (hrewrites id es hes)
  · rintro l ⟨es, hes, hfind⟩ hspares
    refine ⟨_, hrewrites l.holder es hes, Entries.find?_written hfind fun w hw hkey => ?_⟩
    obtain ⟨hmem, hholder⟩ := List.mem_filter.mp hw
    exact hspares w hmem (of_decide_eq_true hholder) hkey

theorem mapping?_eq_some_iff {id : Nat} {es : Entries Slot} :
    h.mapping? id = some es ↔ h.get? id = some (.mapping es) := by
  unfold Heap.mapping?
  split
  · next found hget => simp [hget]
  · next hother =>
    refine ⟨nofun, fun hget => ?_⟩
    exact absurd hget (hother es)

theorem sequence?_eq_some_iff {id : Nat} {items : List Slot} :
    h.sequence? id = some items ↔ h.get? id = some (.sequence items) := by
  unfold Heap.sequence?
  split
  · next found hget => simp [hget]
  · next hother =>
    refine ⟨nofun, fun hget => ?_⟩
    exact absurd hget (hother items)

theorem mappingId?_ref_eq_some_iff {m id : Nat} :
    h.mappingId? (.ref m) = some id ↔ m = id ∧ (h.mapping? m).isSome := by
  rw [mappingId?]
  split
  · next hm => simp [hm]
  · next hm => simp [hm]

theorem mappingId?_ref_isSome {id : Nat} :
    (h.mappingId? (.ref id)).isSome = (h.mapping? id).isSome := by
  rw [mappingId?]
  split
  · next hid => rw [hid, Option.isSome_some]
  · next hid => simpa using hid

theorem mappingId?_bind_ref (h : Heap) (m : Nat) :
    (h.mappingId? (.ref m)).bind h.mapping? = h.mapping? m := by
  rw [mappingId?]
  split
  · rfl
  · next hm => simpa using (Option.not_isSome_iff_eq_none.mp hm).symm

theorem Grows.mapping? (hg : h.Grows h₁) {id : Nat} {es : Entries Slot}
    (hes : h.mapping? id = some es) : h₁.mapping? id = some es :=
  mapping?_eq_some_iff.mpr (hg.get? (mapping?_eq_some_iff.mp hes))

theorem Grows.rewrites (hg : h.Grows h₁) : Rewrites [] h h₁ := fun _ _ hes =>
  mapping?_eq_some_iff.mpr (hg.get? (mapping?_eq_some_iff.mp hes))

theorem get?_write_self {id : Nat} (hid : id < h.fresh) (o : Object) :
    (h.write id o).get? id = some o := by
  simp only [write, Heap.get?]
  exact Array.getElem?_setIfInBounds_self_of_lt hid

theorem rewrites_write_sequence {id : Nat} {items : List Slot}
    (hitems : h.sequence? id = some items) (o : Object) : Rewrites [] h (h.write id o) := by
  intro other es hes
  have hne : other ≠ id := by
    rintro rfl
    rw [mapping?_eq_some_iff, sequence?_eq_some_iff.mp hitems] at hes
    cases hes
  rw [mapping?_congr (get?_write_of_ne o hne)]
  exact hes

theorem rewrites_put (h : Heap) (id : Nat) (k : Scalar) (s : Slot) :
    Rewrites [⟨id, k, s⟩] h (h.write id (.mapping (((h.mapping? id).getD []).put k s))) := by
  intro other es hes
  by_cases heq : other = id
  · subst heq
    have hid := lt_fresh_of_get? (mapping?_eq_some_iff.mp hes)
    rw [mapping?_eq_some_iff, get?_write_self hid, hes]
    simp [writesTo, Entries.written]
  · rw [mapping?_congr (get?_write_of_ne _ heq), hes]
    simp [writesTo, Entries.written, Ne.symm heq]

end Heap

end SceneBook
