import SceneBook.Proofs.Store.Nodes
import SceneBook.Proofs.Value.Links

/-!
# Routes of paths

A path leads to a mapping along a chain of links. It leads there exactly when there is such a chain,
and so goes on to do so as long as no link of the chain is broken.
-/

namespace SceneBook

namespace Heap

inductive Route (h : Heap) : Nat → List Value → List Link → Nat → Prop
  | here {m : Nat} (hm : (h.mapping? m).isSome) : Route h m [] [] m
  | step {m next last : Nat} {k : Scalar} {segments : List Value} {links : List Link}
      (hfirst : (Link.mk m k next).Holds h) (hrest : Route h next segments links last) :
      Route h m (.scalar k :: segments) (⟨m, k, next⟩ :: links) last

variable {h h' : Heap} {m last : Nat} {segments : List Value} {links : List Link}

theorem Changes.route {writes : List Write} (hchanges : Changes writes h h')
    (hroute : h.Route m segments links last)
    (hspares : ∀ w ∈ writes, ∀ l ∈ links, w.Spares l) : h'.Route m segments links last := by
  induction hroute with
  | here hm => exact .here (hchanges.mappings _ hm)
  | step hfirst hrest ih =>
    refine .step (hchanges.links _ hfirst fun w hw => hspares w hw _ List.mem_cons_self) ?_
    exact ih fun w hw l hl => hspares w hw l (List.mem_cons_of_mem _ hl)

end Heap

namespace Store

open Heap

variable {h : Heap} {path segments : List Value} {m id : Nat}

private theorem eq_ref_of_follow [Limits] {s last : Slot}
    (hfollow : follow h path s segments = .ok last)
    (hlast : h.mappingId? last = some id) : ∃ m, s = .ref m := by
  cases s with
  | ref m => exact ⟨m, rfl⟩
  | scalar c =>
    cases segments with
    | nil =>
      cases hfollow
      cases hlast
    | cons segment rest => cases hfollow

private theorem follow_cons_eq_ok_iff [Limits] {segment : Value} {last : Slot} :
    follow h path (.ref m) (segment :: segments) = .ok last ↔
      ∃ k es next, segment = .scalar k ∧ h.mapping? m = some es ∧ es.find? k = some next ∧
        follow h path next segments = .ok last := by
  rw [follow, mappingId?_bind_ref]
  constructor
  · intro hfollow
    split at hfollow
    · cases hfollow
    · next es hes =>
      split at hfollow
      · cases hfollow
      · cases hfollow
      · next next' hseek =>
        obtain ⟨k, hk, hnext⟩ := Entries.seek_eq_ok_some_iff.mp hseek
        exact ⟨k, es, next', hk, hes, hnext, hfollow⟩
  · rintro ⟨k, es, next, rfl, hes, hnext, hfollow⟩
    simp only [hes, Entries.seek_scalar, hnext, hfollow]

private theorem route_of_follow [Limits] {last : Slot}
    (hfollow : follow h path (.ref m) segments = .ok last)
    (hlast : h.mappingId? last = some id) : ∃ links, h.Route m segments links id := by
  induction segments generalizing m with
  | nil =>
    cases hfollow
    obtain ⟨rfl, hm⟩ := mappingId?_ref_eq_some_iff.mp hlast
    exact ⟨[], .here hm⟩
  | cons segment rest ih =>
    obtain ⟨k, es, next, rfl, hes, hnext, hfollow⟩ := follow_cons_eq_ok_iff.mp hfollow
    obtain ⟨m', rfl⟩ := eq_ref_of_follow hfollow hlast
    obtain ⟨links, hlinks⟩ := ih hfollow
    exact ⟨⟨m, k, m'⟩ :: links, .step ⟨es, hes, hnext⟩ hlinks⟩

theorem follow_of_route [Limits] (path : List Value) {links : List Link}
    (hroute : h.Route m segments links id) :
    follow h path (.ref m) segments = .ok (.ref id) ∧ h.mappingId? (.ref id) = some id := by
  induction hroute with
  | here hm => exact ⟨rfl, mappingId?_ref_eq_some_iff.mpr ⟨rfl, hm⟩⟩
  | step hfirst _ ih =>
    obtain ⟨es, hes, hnext⟩ := hfirst
    exact ⟨follow_cons_eq_ok_iff.mpr ⟨_, es, _, rfl, hes, hnext, ih.1⟩, ih.2⟩

theorem walk_eq_ok_iff [Limits] : walk h path (.ref m) = .ok id ↔
    path.length ≤ Limits.path ∧ ∃ links, h.Route m path links id := by
  unfold walk
  rw [bind_eq_ok_iff]
  constructor
  · rintro ⟨last, hfollow, hlast⟩
    split at hlast
    · cases hlast
    · next hlength =>
      have hle := Nat.le_of_not_lt hlength
      rw [List.take_of_length_le hle] at hfollow
      split at hlast
      · next found hfound =>
        cases hlast
        exact ⟨hle, route_of_follow hfollow hfound⟩
      · cases hlast
  · rintro ⟨hle, links, hroute⟩
    obtain ⟨hfollow, hlast⟩ := follow_of_route path hroute
    refine ⟨.ref id, by rw [List.take_of_length_le hle, hfollow], ?_⟩
    rw [if_neg (Nat.not_lt.mpr hle), hlast]

theorem route_of_connect [Limits] {s : Store} {path : Value} {n : Node}
    (hn : s.connect h path = .ok n) :
    ∃ links, h.Route s.top n.path links n.target :=
  (walk_eq_ok_iff.mp (connect_eq_ok_iff.mp hn).2).2

/-- A path that has led to a mapping leads to it in every heap that has the same route. -/
theorem connect_of_route [Limits] {h' : Heap} {s : Store} {path : Value} {n : Node}
    {links : List Link}
    (hn : s.connect h path = .ok n) (hroute : h'.Route s.top n.path links n.target) :
    s.connect h' path = .ok n := by
  obtain ⟨hpath, hwalk⟩ := connect_eq_ok_iff.mp hn
  have hle := (walk_eq_ok_iff.mp hwalk).1
  exact connect_eq_ok_iff.mpr ⟨hpath, walk_eq_ok_iff.mpr ⟨hle, links, hroute⟩⟩

end Store

end SceneBook
