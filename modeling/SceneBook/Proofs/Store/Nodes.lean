import SceneBook.Proofs.Value.Sharing
import SceneBook.Store.Basic

/-!
# Stores and kept objects

What a store and its nodes do to a heap in which some objects are kept apart. Nodes are bound to
other objects than these, what is read through them may be given away, and a snapshot can be kept
from the moment it is taken.
-/

namespace SceneBook

variable {h h' : Heap} {kept : List Nat}

open Heap

namespace Store

private theorem shares_follow [Limits] {path : List Value} {segments : List Value}
    {at' found : Slot} (hh : h.Apart kept) (hat : h.Shares kept at')
    (hfound : follow h path at' segments = .ok found) :
    h.Shares kept found := by
  induction segments generalizing at' with
  | nil =>
    cases hfound
    exact hat
  | cons segment rest ih =>
    rw [follow] at hfound
    split at hfound
    · cases hfound
    · next es hes =>
      split at hfound
      · cases hfound
      · cases hfound
      · next next' hnext =>
        obtain ⟨k, -, hnext⟩ := Entries.seek_eq_ok_some_iff.mp hnext
        obtain ⟨id, _, hmapping⟩ := Option.bind_eq_some_iff.mp hes
        exact ih (hh.mapping? hmapping _ (Entries.mem_of_find? hnext)) hfound

theorem eq_ref_of_mappingId? {s : Slot} {id : Nat} (h' : h.mappingId? s = some id) :
    s = .ref id := by
  cases s with
  | scalar c => cases h'
  | ref other =>
    rw [Heap.mappingId?] at h'
    split at h'
    · rw [Option.some.inj h']
    · cases h'

private theorem shares_walk [Limits] {path : List Value} {start : Slot} {id : Nat}
    (hh : h.Apart kept) (hstart : h.Shares kept start) (hwalk : walk h path start = .ok id) :
    h.Shares kept (.ref id) := by
  obtain ⟨last, hlast, hwalk⟩ := bind_eq_ok_iff.mp hwalk
  split at hwalk
  · cases hwalk
  · split at hwalk
    · next found hfound =>
      cases hwalk
      rw [← eq_ref_of_mappingId? hfound]
      exact shares_follow hh hstart hlast
    · cases hwalk

/-- A node carries the segments of its path, and is bound to where they lead from the top. -/
theorem connect_eq_ok_iff [Limits] {s : Store} {path : Value} {n : Node} :
    s.connect h path = .ok n ↔
      (if path.isNull then n.path = [.scalar s.rootKey] else path.parts = .ok n.path) ∧
        walk h n.path (.ref s.top) = .ok n.target := by
  obtain ⟨segments, target⟩ := n
  unfold connect
  split
  · simp only [bind_eq_ok_iff, Except.ok.injEq, exists_eq_left', pure, Except.pure, Node.mk.injEq]
    constructor
    · rintro ⟨found, hfound, rfl, rfl⟩
      exact ⟨rfl, hfound⟩
    · rintro ⟨rfl, hfound⟩
      exact ⟨target, hfound, rfl, rfl⟩
  · simp only [bind_eq_ok_iff, mapError_eq_ok_iff, Except.ok.injEq, pure, Except.pure,
      Node.mk.injEq]
    constructor
    · rintro ⟨parts, hparts, found, hfound, rfl, rfl⟩
      exact ⟨hparts, hfound⟩
    · rintro ⟨hparts, hfound⟩
      exact ⟨segments, hparts, target, hfound, rfl, rfl⟩

theorem shares_connect [Limits] {s : Store} {path : Value} {n : Node} (hh : h.Apart kept)
    (htop : h.Shares kept (.ref s.top)) (hn : s.connect h path = .ok n) :
    h.Shares kept (.ref n.target) :=
  shares_walk hh htop (connect_eq_ok_iff.mp hn).2

theorem shares_initialEntries {initial : Slot} {es : Entries Slot} (hh : h.Apart kept)
    (hes : initialEntries h initial = .ok es) : ∀ s ∈ es.map Prod.snd, h.Shares kept s := by
  unfold initialEntries at hes
  split at hes
  · exact hh.entries hes
  · cases hes
    simp

/-- A store refers to the entries of what it starts from, and not to that itself. -/
theorem follows_create {initial : Slot} {rootKey : Value} {s : Store} (hh : h.Apart kept)
    (hs : create h initial rootKey = .ok (h', s)) :
    Follows kept h h' ∧ h'.Shares kept (.ref s.top) := by
  obtain ⟨es, hes, hs⟩ := bind_eq_ok_iff.mp hs
  obtain ⟨key, _, hs⟩ := bind_eq_ok_iff.mp hs
  cases hs
  have hroot : Follows kept h (h.alloc (.mapping es)).1 := hh.alloc (shares_initialEntries hh hes)
  have htop := hroot.apart.alloc (o := .mapping [(key, .ref (h.alloc (.mapping es)).2)]) (by
    intro t ht
    rw [List.mem_singleton.mp ht]
    exact hh.shares_alloc _)
  exact ⟨hroot.trans htop, hroot.apart.shares_alloc _⟩

theorem snapshot_eq {s : Store} {id : Nat} (hh : h.Apart kept)
    (hs : s.snapshot h = .ok (h', id)) :
    ∃ es : Entries Slot, (h', id) = h.alloc (.mapping es) ∧
      ∀ t ∈ es.map Prod.snd, h.Shares kept t := by
  obtain ⟨es, hes, hs⟩ := bind_eq_ok_iff.mp hs
  cases hs
  exact ⟨es, rfl, hh.entries hes⟩

end Store

namespace Node

variable {n : Node} {key : Value}

private theorem shares_entries (hh : h.Apart kept) (n : Node) :
    ∀ s ∈ (n.entries h).map Prod.snd, h.Shares kept s := by
  unfold entries
  cases hes : h.mapping? n.target with
  | none => simp
  | some es => exact hh.mapping? hes

theorem shares_get {s : Slot} (hh : h.Apart kept) (hs : n.get h key = .ok (some s)) :
    h.Shares kept s := by
  obtain ⟨k, _, hfind⟩ := Entries.seek_eq_ok_some_iff.mp hs
  exact shares_entries hh n s (Entries.mem_of_find? hfind)

theorem follows_put {s : Slot} (hh : h.Apart kept) (hn : h.Shares kept (.ref n.target))
    (hs : h.Shares kept s) (hput : n.put h key s = .ok h') : Follows kept h h' := by
  obtain ⟨k, _, rfl⟩ := map_eq_ok_iff.mp hput
  refine hh.write hn.2 fun t ht => ?_
  rcases Entries.mem_put ht with rfl | ht
  · exact hs
  · exact shares_entries hh n t ht

theorem follows_set {v : Value} (hh : h.Apart kept) (hn : h.Shares kept (.ref n.target))
    (hset : n.set h key v = .ok h') : Follows kept h h' := by
  have hadd := hh.add v
  exact hadd.follows.trans (follows_put hadd.follows.apart (hn.mono hadd.follows.fresh_le)
    (hadd.shares _ List.mem_cons_self) hset)

theorem follows_push {v : Value} (hh : h.Apart kept) (hpush : n.push h key v = .ok h') :
    Follows kept h h' := by
  obtain ⟨found, hfound, hpush⟩ := bind_eq_ok_iff.mp hpush
  split at hpush
  · next id =>
    split at hpush
    · next items hitems =>
      cases hpush
      exact hh.append hitems (shares_get hh hfound) (hh.add v)
    · cases hpush
  · cases hpush

end Node

end SceneBook
