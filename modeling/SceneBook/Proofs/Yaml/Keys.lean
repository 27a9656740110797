import SceneBook.Proofs.Value.Keys
import SceneBook.Yaml.Document

/-!
# Keys of mappings read

However often a text gives a key of a mapping, the value that is read from it has the key once. The
entries of a node are written one after the other, so no mapping of the heap gets a key twice while
the parts of the collections are put in.
-/

namespace SceneBook.Yaml

namespace Assembly

variable {a a' : Assembly}

private theorem keyed_slot {s : Slot} {id : Nat} (ha : a.heap.Keyed) (h : a.slot id = .ok (s, a')) :
    a'.heap.Keyed := by
  unfold slot at h
  split at h
  · cases h
    exact ha
  · split at h
    · next o ho =>
      cases h
      refine ha.alloc ?_
      unfold Kind.object? at ho
      split at ho <;> cases ho
      exacts [trivial, trivial, Entries.distinct_nil, trivial]
    · obtain ⟨c, -, hc⟩ := map_eq_ok_iff.mp h
      cases hc
      exact ha

private theorem keyed_slotsOf {ss : List Slot} {ids : List Nat} (ha : a.heap.Keyed)
    (h : a.slotsOf ids = .ok (ss, a')) : a'.heap.Keyed := by
  induction ids generalizing a ss with
  | nil =>
    cases h
    exact ha
  | cons id rest ih =>
    obtain ⟨⟨s, a₁⟩, hs, h⟩ := bind_eq_ok_iff.mp h
    obtain ⟨⟨ss', a₂⟩, hss, h⟩ := bind_eq_ok_iff.mp h
    cases h
    exact ih (keyed_slot ha hs) hss

private theorem keyed_addEntries {es found : Entries Slot} {pairs : List (Nat × Nat)}
    (ha : a.heap.Keyed) (hes : es.Distinct) (h : a.addEntries es pairs = .ok (found, a')) :
    found.Distinct ∧ a'.heap.Keyed := by
  induction pairs generalizing a es with
  | nil =>
    cases h
    exact ⟨hes, ha⟩
  | cons p rest ih =>
    obtain ⟨⟨key, a₁⟩, hkey, h⟩ := bind_eq_ok_iff.mp h
    cases key with
    | ref id => cases h
    | scalar k =>
      obtain ⟨⟨s, a₂⟩, hs, h⟩ := bind_eq_ok_iff.mp h
      exact ih (keyed_slot (keyed_slot ha hkey) hs) (hes.put k s) h

private theorem keyed_entriesOf {es : Entries Slot} {id : Nat} (ha : a.heap.Keyed)
    (h : a.entriesOf id = .ok (es, a')) : es.Distinct ∧ a'.heap.Keyed := by
  unfold entriesOf at h
  split at h
  · cases h
  · obtain ⟨g, -, h⟩ := bind_eq_ok_iff.mp h
    exact keyed_addEntries (a := { a with graph := g }) ha Entries.distinct_nil h

private theorem keyed_pairsOf {ss : List Slot} {ids : List Nat} (ha : a.heap.Keyed)
    (h : a.pairsOf ids = .ok (ss, a')) : a'.heap.Keyed := by
  induction ids generalizing a ss with
  | nil =>
    cases h
    exact ha
  | cons id rest ih =>
    rw [pairsOf] at h
    split at h
    · obtain ⟨⟨key, a₁⟩, hkey, h⟩ := bind_eq_ok_iff.mp h
      obtain ⟨⟨s, a₂⟩, hs, h⟩ := bind_eq_ok_iff.mp h
      obtain ⟨⟨ss', a₃⟩, hss, h⟩ := bind_eq_ok_iff.mp h
      cases h
      have hpair : (a₂.heap.alloc (.tuple [key, s])).1.Keyed :=
        (keyed_slot (keyed_slot ha hkey) hs).alloc trivial
      exact ih (a := { a₂ with heap := (a₂.heap.alloc (.tuple [key, s])).1 }) hpair hss
    · cases h

private theorem keyed_fill {node object : Nat} (ha : a.heap.Keyed)
    (h : a.fill node object = .ok a') :
    a'.heap.Keyed := by
  unfold fill at h
  split at h
  · obtain ⟨⟨es, a₁⟩, hes, h⟩ := bind_eq_ok_iff.mp h
    cases h
    obtain ⟨hdistinct, ha₁⟩ := keyed_entriesOf ha hes
    exact ha₁.write object hdistinct
  · obtain ⟨⟨es, a₁⟩, hes, h⟩ := bind_eq_ok_iff.mp h
    cases h
    exact (keyed_entriesOf ha hes).2.write object trivial
  · obtain ⟨ids, -, h⟩ := bind_eq_ok_iff.mp h
    obtain ⟨⟨ss, a₁⟩, hss, h⟩ := bind_eq_ok_iff.mp h
    cases h
    exact (keyed_pairsOf ha hss).write object trivial
  · obtain ⟨ids, -, h⟩ := bind_eq_ok_iff.mp h
    obtain ⟨⟨ss, a₁⟩, hss, h⟩ := bind_eq_ok_iff.mp h
    cases h
    exact (keyed_slotsOf ha hss).write object trivial

private theorem keyed_fillAll {waiting : List (Nat × Nat)} (ha : a.heap.Keyed)
    (h : waiting.foldlM (fun a w => a.fill w.1 w.2) a = .ok a') : a'.heap.Keyed := by
  induction waiting generalizing a with
  | nil =>
    cases h
    exact ha
  | cons w rest ih =>
    rw [List.foldlM_cons] at h
    obtain ⟨a₁, hfill, h⟩ := bind_eq_ok_iff.mp h
    exact ih (keyed_fill ha hfill) h

private theorem keyed_complete {rounds : Nat} (ha : a.heap.Keyed) (h : complete rounds a = .ok a') :
    a'.heap.Keyed := by
  induction rounds generalizing a with
  | zero =>
    cases h
    exact ha
  | succ rounds ih =>
    rw [complete] at h
    split at h
    · cases h
      exact ha
    · obtain ⟨a₁, hround, h⟩ := bind_eq_ok_iff.mp h
      exact ih (keyed_fillAll (a := { a with waiting := [] }) ha hround) h

end Assembly

private theorem keyed_value {g : Graph} {id : Nat} {v : Value} (h : g.value id = .ok v) :
    v.Keyed := by
  obtain ⟨⟨s, a⟩, hs, h⟩ := bind_eq_ok_iff.mp h
  obtain ⟨a', hcomplete, h⟩ := bind_eq_ok_iff.mp h
  cases h
  exact (Assembly.keyed_complete (Assembly.keyed_slot .empty hs) hcomplete).value s

theorem keyed_read {cs : List Char} {v : Value} (h : read cs = .ok v) : v.Keyed := by
  unfold read at h
  dsimp only at h
  split at h
  · cases h
  · obtain ⟨⟨g, id⟩, -, h⟩ := bind_eq_ok_iff.mp h
    exact keyed_value h

end SceneBook.Yaml
