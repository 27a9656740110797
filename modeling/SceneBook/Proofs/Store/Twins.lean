import SceneBook.Proofs.Value.Twins
import SceneBook.Store.Basic

/-!
# Stores in heaps alike

Stores and nodes on related mappings do the same in two heaps that are alike: a path fails alike or
leads to related mappings, the same is read, and writing leaves the heaps alike.
-/

namespace SceneBook

open Heap

variable {R R' : Nat → Nat → Prop} {h h' g g' : Heap}

structure Store.Like (R : Nat → Nat → Prop) (st st' : Store) : Prop where
  rootKey : st.rootKey = st'.rootKey
  top : R st.top st'.top

structure Node.Like (R : Nat → Nat → Prop) (h : Heap) (n n' : Node) : Prop where
  path : n.path = n'.path
  target : R n.target n'.target
  bound : (h.mapping? n.target).isSome

theorem Store.Like.mono {st st' : Store} (hst : Store.Like R st st')
    (hle : ∀ a b, R a b → R' a b) : Store.Like R' st st' := ⟨hst.rootKey, hle _ _ hst.top⟩

theorem Node.Like.parallel {n n' : Node} (hn : Node.Like R h n n')
    (hp : Parallel R h g R' h' g') : Node.Like R' h' n n' :=
  ⟨hn.path, hp.keeps _ _ hn.target, hp.left.isSome_mapping? hn.bound⟩

private theorem Entries.Like.seek {es fs : Entries Slot} (hes : Entries.Like R es fs) (v : Value) :
    Agree (Option.Rel (Slot.Like R)) (es.seek v) (fs.seek v) := by
  cases v with
  | scalar k => exact .ok (hes.find? k)
  | _ =>
    simp only [Entries.seek, Value.scalar?]
    split
    · exact .ok .none
    · exact .error _

namespace Store

private theorem like_follow [Limits] (ha : Alike R h g) (path : List Value) {segments : List Value}
    {s t : Slot} (hst : Slot.Like R s t) :
    Agree (Slot.Like R) (follow h path s segments) (follow g path t segments) := by
  induction segments generalizing s t with
  | nil => exact .ok hst
  | cons segment rest ih =>
    have hentries := ha.entries? hst
    rw [follow, follow]
    generalize (h.mappingId? s).bind h.mapping? = x at hentries
    generalize (g.mappingId? t).bind g.mapping? = y at hentries
    cases hentries with
    | none => exact .error _
    | @some es fs hes =>
      have hsought := hes.seek segment
      simp only
      generalize es.seek segment = x at hsought
      generalize fs.seek segment = y at hsought
      cases hsought with
      | error m => exact .error _
      | ok hfound =>
        cases hfound with
        | none => exact .error _
        | some hnext => exact ih hnext

private theorem like_mappingId? (ha : Alike R h g) {s t : Slot} (hst : Slot.Like R s t) :
    Option.Rel (fun a b => R a b ∧ (h.mapping? a).isSome) (h.mappingId? s) (g.mappingId? t) := by
  cases s <;> cases t
  case scalar.scalar => exact .none
  case ref.ref a b =>
    have hmapping := ha.mapping? hst
    rw [mappingId?, mappingId?]
    generalize hx : h.mapping? a = x at hmapping
    generalize g.mapping? b = y at hmapping
    cases hmapping with
    | none => exact .none
    | some _ => exact .some ⟨hst, Option.isSome_of_eq_some hx⟩
  all_goals exact hst.elim

private theorem like_walk [Limits] (ha : Alike R h g) (path : List Value) {s t : Slot}
    (hst : Slot.Like R s t) :
    Agree (fun a b => R a b ∧ (h.mapping? a).isSome) (walk h path s) (walk g path t) := by
  refine (like_follow ha path hst).bind fun last last' hlast => ?_
  split
  · exact .error _
  · have hid := like_mappingId? ha hlast
    generalize h.mappingId? last = x at hid
    generalize g.mappingId? last' = y at hid
    cases hid with
    | none => exact .error _
    | some hid => exact .ok hid

theorem like_connect [Limits] (ha : Alike R h g) {st st' : Store} (hst : Store.Like R st st')
    (path : Value) : Agree (Node.Like R h) (st.connect h path) (st'.connect g path) := by
  have hwalk (segments : List Value) :
      Agree (Node.Like R h) ((walk h segments (.ref st.top)).bind fun id => .ok ⟨segments, id⟩)
        ((walk g segments (.ref st'.top)).bind fun id => .ok ⟨segments, id⟩) := by
    have htop : Slot.Like R (.ref st.top) (.ref st'.top) := hst.top
    exact (like_walk ha segments htop).bind fun a b hab => .ok ⟨rfl, hab.1, hab.2⟩
  unfold connect
  rw [hst.rootKey]
  split
  · exact hwalk _
  · exact (Agree.of_eq (fun _ => rfl) _).bind fun _ segments heq => heq ▸ hwalk segments

theorem like_initialEntries (ha : Alike R h g) {s t : Slot} (hst : Slot.Like R s t) :
    Agree (Entries.Like R) (initialEntries h s) (initialEntries g t) := by
  unfold initialEntries
  rw [ha.isTruthy_eq hst]
  split
  · exact ha.entries hst
  · exact .ok .nil

/-- A store shares the entries that it starts from, and nothing else that is there. -/
theorem like_create (ha : Alike R h g) {initial initial' : Slot}
    (hes : Agree (Entries.Like R) (initialEntries h initial) (initialEntries g initial'))
    (rootKey : Value) :
    Agree (fun made made' => ∃ R', Parallel R h g R' made.1 made'.1 ∧
      Store.Like R' made.2 made'.2) (create h initial rootKey) (create g initial' rootKey) := by
  refine hes.bind fun es fs hes => ?_
  refine (Agree.of_eq (fun _ => rfl) _).bind fun key key' hkey => ?_
  subst hkey
  obtain ⟨R₁, hroot, hids⟩ := ha.alloc (.mapping hes)
  have htop : Object.Like R₁ (.mapping [(key, .ref h.fresh)]) (.mapping [(key, .ref g.fresh)]) :=
    .mapping (.cons ⟨rfl, hids⟩ .nil)
  obtain ⟨R₂, hnew, htops⟩ := hroot.alike.alloc htop
  exact .ok ⟨R₂, hroot.trans hnew, rfl, htops⟩

end Store

namespace Node

variable {n n' : Node}

private theorem Like.entries (hn : Node.Like R h n n') (ha : Alike R h g) :
    Entries.Like R (n.entries h) (n'.entries g) := by
  have hmapping := ha.mapping? hn.target
  unfold Node.entries
  generalize h.mapping? n.target = x at hmapping
  generalize g.mapping? n'.target = y at hmapping
  cases hmapping with
  | none => exact .nil
  | some hes => exact hes

theorem Like.get (hn : Node.Like R h n n') (ha : Alike R h g) (key : Value) :
    Agree (Option.Rel (Slot.Like R)) (n.get h key) (n'.get g key) :=
  (hn.entries ha).seek key

theorem Like.put (hn : Node.Like R h n n') (ha : Alike R h g) (key : Value) {s t : Slot}
    (hst : Slot.Like R s t) :
    Agree (fun h' g' => Parallel R h g R h' g') (n.put h key s) (n'.put g key t) := by
  refine (Agree.of_eq (fun _ => rfl) key.key?).map fun k' k hk => ?_
  subst hk
  have hmapping := ha.mapping? hn.target
  obtain ⟨es, hes⟩ := Option.isSome_iff_exists.mp hn.bound
  rw [hes] at hmapping
  obtain ⟨fs, hfs⟩ : ∃ fs, g.mapping? n'.target = some fs := by
    generalize g.mapping? n'.target = y at hmapping
    cases hmapping with
    | some _ => exact ⟨_, rfl⟩
  refine (Parallel.refl ha).write hn.target (.mapping ((hn.entries ha).put k' hst))
    (fun old hold => ?_) (fun old hold => ?_)
  · rw [mapping?_eq_some_iff.mp hes] at hold
    cases hold
    exact .mapping _ _
  · rw [mapping?_eq_some_iff.mp hfs] at hold
    cases hold
    exact .mapping _ _

theorem Like.set (hn : Node.Like R h n n') (ha : Alike R h g) (key v : Value) :
    Agree (fun h' g' => ∃ R', Parallel R h g R' h' g') (n.set h key v) (n'.set g key v) := by
  obtain ⟨R', hadd, hslot⟩ := ha.add v
  exact ((hn.parallel hadd).put hadd.alike key hslot).imp
    fun _ _ hput => ⟨R', hadd.trans hput⟩

end Node

theorem Heap.Parallel.append (hp : Parallel R h g R' h' g') (ha : Alike R h g) {a b : Nat}
    (hab : R a b) {items others : List Slot} (hitems : h.sequence? a = some items)
    (hothers : g.sequence? b = some others) {s t : Slot} (hst : Slot.Like R' s t) :
    Parallel R h g R' (h'.write a (.sequence (items ++ [s])))
      (g'.write b (.sequence (others ++ [t]))) := by
  have hlike : List.Forall₂ (Slot.Like R) items others := by
    have hboth := ha.sequence? hab
    rw [hitems, hothers] at hboth
    cases hboth with
    | some hboth => exact hboth
  have hlonger : List.Forall₂ (Slot.Like R') (items ++ [s]) (others ++ [t]) :=
    List.rel_append (hlike.imp fun _ _ => Slot.Like.mono hp.keeps) (.cons hst .nil)
  refine hp.write (hp.keeps a b hab) (.sequence hlonger) (fun old hold => ?_)
    (fun old hold => ?_)
  · rw [sequence?_eq_some_iff.mp hitems] at hold
    cases hold
    exact .sequence _ _
  · rw [sequence?_eq_some_iff.mp hothers] at hold
    cases hold
    exact .sequence _ _

theorem Node.Like.push {n n' : Node} (hn : Node.Like R h n n') (ha : Alike R h g)
    (key v : Value) :
    Agree (fun h' g' => ∃ R', Parallel R h g R' h' g') (n.push h key v) (n'.push g key v) := by
  refine (hn.get ha key).bind fun found found' hfound => ?_
  cases hfound with
  | none => exact .error _
  | @some s t hst =>
    cases s <;> cases t
    case scalar.scalar => exact .error _
    case ref.ref a b =>
      simp only
      have hboth := ha.sequence? hst
      generalize hitems : h.sequence? a = x at hboth
      generalize hothers : g.sequence? b = y at hboth
      cases hboth with
      | none => exact .error _
      | some _ =>
        obtain ⟨R', hadd, hslot⟩ := ha.add v
        exact .ok ⟨R', hadd.append ha hst hitems hothers hslot⟩
    all_goals exact hst.elim

end SceneBook
