import SceneBook.Proofs.Store.Reach

/-!
# Paths put together

A path that is put together from two leads to where the second leads from the mapping that the first
has reached. One more segment leads to what the handle on that mapping gives for the segment as a
key. Only the length of the whole path is not told by its two parts.
-/

namespace SceneBook

namespace Heap

variable {h : Heap} {m last : Nat} {p q : List Value} {links : List Link}

private theorem Route.mapping (hroute : h.Route m p links last) : (h.mapping? m).isSome := by
  cases hroute with
  | here hm => exact hm
  | step hfirst _ =>
    obtain ⟨es, hes, -⟩ := hfirst
    exact Option.isSome_of_eq_some hes

private theorem exists_route_append_iff :
    (∃ links, h.Route m (p ++ q) links last) ↔
      ∃ mid, (∃ links, h.Route m p links mid) ∧ ∃ links, h.Route mid q links last := by
  induction p generalizing m with
  | nil =>
    constructor
    · rintro ⟨links, hroute⟩
      exact ⟨m, ⟨[], .here hroute.mapping⟩, links, hroute⟩
    · rintro ⟨mid, ⟨_, ⟨⟩⟩, hroute⟩
      exact hroute
  | cons segment rest ih =>
    constructor
    · rintro ⟨_, _ | ⟨hfirst, hrest⟩⟩
      obtain ⟨mid, ⟨links, hmid⟩, hlast⟩ := ih.mp ⟨_, hrest⟩
      exact ⟨mid, ⟨_, .step hfirst hmid⟩, hlast⟩
    · rintro ⟨mid, ⟨_, _ | ⟨hfirst, hmid⟩⟩, hlast⟩
      obtain ⟨links, hrest⟩ := ih.mpr ⟨mid, ⟨_, hmid⟩, hlast⟩
      exact ⟨_, .step hfirst hrest⟩

end Heap

private theorem Node.get_eq_ref_iff {h : Heap} {n : Node} {k : Value} {id : Nat} :
    n.get h k = .ok (some (.ref id)) ↔
      ∃ key, k = .scalar key ∧ (Link.mk n.target key id).Holds h := by
  rw [Node.get, Entries.seek_eq_ok_some_iff]
  constructor
  · rintro ⟨key, rfl, hfind⟩
    cases hes : h.mapping? n.target with
    | none =>
      rw [Node.entries, hes] at hfind
      cases hfind
    | some es =>
      rw [Node.entries, hes] at hfind
      exact ⟨key, rfl, es, hes, hfind⟩
  · rintro ⟨key, rfl, es, hes, hfind⟩
    have hentries : n.entries h = es := by rw [Node.entries, hes, Option.getD_some]
    exact ⟨key, rfl, hentries ▸ hfind⟩

namespace Store

open Heap

variable {h : Heap} {st : Store} {m id : Nat} {p q : List Value}

/-- A handle has the segments of its path, and is bound to where they lead. -/
theorem connect_parts_eq_ok_iff [Limits] {path : Value} {segments : List Value} {n : Node}
    (hpath : path.parts = .ok segments) :
    st.connect h path = .ok n ↔
      n.path = segments ∧ walk h segments (.ref st.top) = .ok n.target := by
  rw [connect_parts h st hpath, map_eq_ok_iff]
  constructor
  · rintro ⟨id, hid, rfl⟩
    exact ⟨rfl, hid⟩
  · rintro ⟨rfl, hid⟩
    exact ⟨n.target, hid, rfl⟩

private theorem walk_append_eq_ok_iff [Limits] :
    walk h (p ++ q) (.ref m) = .ok id ↔ (p ++ q).length ≤ Limits.path ∧
      ∃ mid, walk h p (.ref m) = .ok mid ∧ walk h q (.ref mid) = .ok id := by
  simp only [walk_eq_ok_iff, exists_route_append_iff, List.length_append]
  constructor
  · rintro ⟨hle, mid, hmid, hlast⟩
    exact ⟨hle, mid, ⟨by omega, hmid⟩, by omega, hlast⟩
  · rintro ⟨hle, mid, ⟨-, hmid⟩, -, hlast⟩
    exact ⟨hle, mid, hmid, hlast⟩

private theorem walk_singleton_eq_ok_iff [Limits] {n : Node} {k : Value} :
    walk h [k] (.ref n.target) = .ok id ↔
      n.contains h k = .ok true ∧ n.get h k = .ok (some (.ref id)) ∧ (h.mapping? id).isSome := by
  rw [walk_eq_ok_iff]
  constructor
  · rintro ⟨-, _, _ | ⟨hlink, hrest⟩⟩
    cases hrest with
    | here hm =>
      have hget := Node.get_eq_ref_iff.mpr ⟨_, rfl, hlink⟩
      refine ⟨?_, hget, hm⟩
      rw [Node.contains, hget]
      rfl
  · rintro ⟨-, hget, hm⟩
    obtain ⟨key, rfl, hlink⟩ := Node.get_eq_ref_iff.mp hget
    exact ⟨Limits.path_pos, _, .step hlink (.here hm)⟩

private theorem connect_append_eq_ok_iff [Limits] {first whole : Value} {n' : Node}
    (hfirst : first.parts = .ok p) (hwhole : whole.parts = .ok (p ++ q)) :
    st.connect h whole = .ok n' ↔ (p ++ q).length ≤ Limits.path ∧ n'.path = p ++ q ∧
      ∃ n, st.connect h first = .ok n ∧ walk h q (.ref n.target) = .ok n'.target := by
  rw [connect_parts_eq_ok_iff hwhole, walk_append_eq_ok_iff]
  simp only [connect_parts_eq_ok_iff hfirst]
  constructor
  · rintro ⟨hpath, hle, mid, hmid, hlast⟩
    exact ⟨hle, hpath, ⟨p, mid⟩, ⟨rfl, hmid⟩, hlast⟩
  · rintro ⟨hle, hpath, n, ⟨-, hmid⟩, hlast⟩
    exact ⟨hpath, hle, n.target, hmid, hlast⟩

/-- A path that is put together from two, or continued by one segment, leads somewhere exactly if
its parts do one after the other and it is not too long; what is reached is the same. Where the
first part does not lead, nothing that starts with it does. -/
theorem connect_append_decided [Limits] (h : Heap) (st : Store) {first : Value}
    (hfirst : first.parts = .ok p) :
    (∀ whole q, whole.parts = .ok (p ++ q) →
      (∀ n', st.connect h whole = .ok n' ↔
        (p ++ q).length ≤ Limits.path ∧ n'.path = p ++ q ∧
          ∃ n, st.connect h first = .ok n ∧ walk h q (.ref n.target) = .ok n'.target) ∧
      ((∀ n, st.connect h first ≠ .ok n) → ∀ n', st.connect h whole ≠ .ok n')) ∧
    ∀ longer k, longer.parts = .ok (p ++ [k]) → ∀ n', st.connect h longer = .ok n' ↔
      (p ++ [k]).length ≤ Limits.path ∧ n'.path = p ++ [k] ∧
        ∃ n, st.connect h first = .ok n ∧ n.contains h k = .ok true ∧
          n.get h k = .ok (some (.ref n'.target)) ∧ (h.mapping? n'.target).isSome := by
  refine ⟨fun whole q hwhole => ⟨fun n' => connect_append_eq_ok_iff hfirst hwhole, ?_⟩, ?_⟩
  · intro hfails n' hn'
    obtain ⟨-, -, n, hn, -⟩ := (connect_append_eq_ok_iff hfirst hwhole).mp hn'
    exact hfails n hn
  · intro longer k hlonger n'
    rw [connect_append_eq_ok_iff hfirst hlonger]
    simp only [walk_singleton_eq_ok_iff]

end Store

namespace Session

open Store

/-- The theme is what a handle on the configuration gets, and a path through its color to no more
than that is lost for all that follows. -/
theorem connect_append_decided_themed :
    let st : Store := ⟨.text "root", 5⟩
    let config : List Value := [.text "root", .text "config"]
    let color : List Value := [.text "root", .text "config", .text "theme", .text "color"]
    (Value.list config).parts = .ok config ∧
    (Value.list (config ++ [.text "theme"])).parts = .ok (config ++ [.text "theme"]) ∧
    (∃ n n', st.connect themed.heap (.list config) = .ok n ∧
      st.connect themed.heap (.list (config ++ [.text "theme"])) = .ok n' ∧
      n.get themed.heap (.text "theme") = .ok (some (.ref n'.target))) ∧
    ∀ rest n', st.connect themed.heap (.list (color ++ rest)) ≠ .ok n' := by
  intro st config color
  have hconfig : (Value.list config).parts = .ok config := rfl
  have hcolor : (Value.list color).parts = .ok color := rfl
  refine ⟨hconfig, rfl, ?_, fun rest => ?_⟩
  · have htheme : st.connect themed.heap (.list (config ++ [.text "theme"])) =
        .ok ⟨config ++ [.text "theme"], 0⟩ := rfl
    obtain ⟨-, hlonger⟩ := connect_append_decided themed.heap st hconfig
    obtain ⟨-, -, n, hn, -, hget, -⟩ := (hlonger _ (.text "theme") rfl _).mp htheme
    exact ⟨n, _, hn, htheme, hget⟩
  · obtain ⟨hwhole, -⟩ := connect_append_decided themed.heap st hcolor
    apply (hwhole _ rest rfl).2
    intro n hn
    cases hn

private theorem connect_looped (n : Nat) :
    let path : List Value := .text "root" :: List.replicate n (.text "self")
    (Store.mk (.text "root") 2).connect looped.heap (.list path) =
      if n < Limits.path then .ok ⟨path, 1⟩ else .error (.misuse .tooDeep) := by
  intro path
  have hparts : (Value.list path).parts = .ok path := rfl
  have hlength : path.length = n + 1 := by rw [List.length_cons, List.length_replicate]
  have hpath : looped.heap.Furthest (.ref 2) path path.length (.ref 1) :=
    .of_walks (.step rfl (walks_looped n))
  rw [connect_parts looped.heap _ hparts]
  split
  · next hshort =>
    have hsettles : Settles path path.length := by
      unfold Settles
      omega
    rw [walk_of_ended hpath hsettles]
    rfl
  · next hlong =>
    have hunsettled : ¬ Settles path path.length := by
      unfold Settles
      omega
    rw [walk_of_not_settles hpath hunsettled]
    rfl

/-- Two paths that lead somewhere one after the other, but are too long together. -/
theorem long_path_not_composed :
    let st : Store := ⟨.text "root", 2⟩
    let p : List Value := .text "root" :: List.replicate 600 (.text "self")
    let q : List Value := List.replicate 600 (.text "self")
    looped.stores[0]? = some st ∧
    st.connect looped.heap (.list p) = .ok ⟨p, 1⟩ ∧ walk looped.heap q (.ref 1) = .ok 1 ∧
    st.connect looped.heap (.list (p ++ q)) = .error (.misuse .tooDeep) := by
  intro st p q
  have hp : st.connect looped.heap (.list p) = .ok ⟨p, 1⟩ := by
    rw [connect_looped 600]
    exact if_pos (by decide)
  have hq : walk looped.heap q (.ref 1) = .ok 1 := by
    obtain ⟨-, hwalk⟩ := (connect_parts_eq_ok_iff rfl).mp hp
    obtain ⟨-, mid, hmid, hlast⟩ := walk_append_eq_ok_iff (p := [.text "root"]) |>.mp hwalk
    cases hmid
    exact hlast
  have hwhole : p ++ q = .text "root" :: List.replicate 1200 (.text "self") := by
    rw [List.cons_append, List.replicate_append_replicate]
  refine ⟨rfl, hp, hq, ?_⟩
  rw [hwhole, connect_looped 1200]
  exact if_neg (by decide)

end Session

end SceneBook
