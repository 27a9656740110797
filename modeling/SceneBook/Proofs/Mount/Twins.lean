import SceneBook.Proofs.Mount.Scripts
import SceneBook.Proofs.Store.Twins

/-!
# Programs in heaps alike

A scene that is confined does the same in two heaps that are alike: it gets as far, fails for the
same reason if it fails, and leaves heaps that are alike. Scripts are confined to what their steps
are given. So mounting a program and running its scenes leave heaps alike as well.
-/

namespace SceneBook.Mount

open Heap

variable {R R' : Nat → Nat → Prop}

abbrev NodesLike (R : Nat → Nat → Prop) (h : Heap) :
    List (Text × Node) → List (Text × Node) → Prop :=
  List.Forall₂ fun p q => p.1 = q.1 ∧ Node.Like R h p.2 q.2

private theorem NodesLike.parallel {h h' g g' : Heap} {ns ms : List (Text × Node)}
    (hn : NodesLike R h ns ms) (hp : Parallel R h g R' h' g') : NodesLike R' h' ns ms :=
  hn.imp fun _ _ hpq => ⟨hpq.1, hpq.2.parallel hp⟩

structure Workspace.Like (R : Nat → Nat → Prop) (w v : Workspace) : Prop where
  alike : Alike R w.heap v.heap
  nodes : NodesLike R w.heap w.nodes v.nodes

/-- What becomes of two workspaces that are alike, when the same is done in both. -/
def Workspace.Twins (R : Nat → Nat → Prop) (w v w' v' : Workspace) : Prop :=
  ∃ R', Parallel R w.heap v.heap R' w'.heap v'.heap ∧ Workspace.Like R' w' v'

namespace Workspace

variable {w v : Workspace} {n n' : Node} {c d s t : Slot}

private theorem Like.twins (hw : Like R w v) {h g : Heap} (hp : Parallel R w.heap v.heap R' h g) :
    Twins R w v { w with heap := h } { v with heap := g } :=
  ⟨R', hp, hp.alike, hw.nodes.parallel hp⟩

private theorem Like.node (hw : Like R w v) (name : Text) :
    Agree (Node.Like R w.heap) (w.node name) (v.node name) := by
  have hnodes := hw.nodes
  unfold Workspace.node
  generalize w.nodes = ns at hnodes
  generalize v.nodes = ms at hnodes
  induction hnodes with
  | nil => exact .error _
  | @cons p q _ _ hpq _ ih =>
    rw [List.lookup_cons, List.lookup_cons, hpq.1]
    cases name == q.1 with
    | true => exact .ok hpq.2
    | false => exact ih

private theorem Like.fetch (hw : Like R w v) (hn : Node.Like R w.heap n n') (key : Value)
    (hst : Slot.Like R s t) :
    Agree (Slot.Like R) (w.fetch n key s) (v.fetch n' key t) := by
  refine ((hn.get hw.alike key).map fun found found' hfound => ?_).mapError _
  cases hfound with
  | none => exact hst
  | some hfound => exact hfound

private theorem Like.contextList (hw : Like R w v) (hcd : Slot.Like R c d) :
    Agree (fun x y => R x.1 y.1 ∧ w.heap.sequence? x.1 = some x.2 ∧
      v.heap.sequence? y.1 = some y.2) (w.contextList c) (v.contextList d) := by
  cases c <;> cases d
  case scalar.scalar => exact .error _
  case ref.ref a b =>
    have hboth := hw.alike.sequence? hcd
    simp only [Workspace.contextList]
    generalize hitems : w.heap.sequence? a = x at hboth
    generalize hothers : v.heap.sequence? b = y at hboth
    cases hboth with
    | none => exact .error _
    | some _ => exact .ok ⟨hcd, hitems, hothers⟩
  all_goals exact hcd.elim

private theorem twins_sum {h g : Heap} (ha : Alike R h g) {a a' b b' : Slot}
    (haa : Slot.Like R a a')
    (hbb : Slot.Like R b b') : Agree (Heap.Twins R h g) (sum h a b) (sum g a' b') := by
  cases a <;> cases a'
  case scalar.scalar =>
    cases haa
    cases b <;> cases b'
    case scalar.scalar =>
      cases hbb
      exact (Agree.of_eq (fun _ => rfl) _).map fun _ total heq => heq ▸ ⟨R, .refl ha, rfl⟩
    case ref.ref => exact .error _
    all_goals exact hbb.elim
  case ref.ref i j =>
    cases b <;> cases b'
    case scalar.scalar => exact .error _
    case ref.ref k l =>
      have hfirst := ha.sequence? haa
      have hsecond := ha.sequence? hbb
      simp only [sum]
      generalize h.sequence? i = x at hfirst
      generalize g.sequence? j = y at hfirst
      generalize h.sequence? k = x' at hsecond
      generalize g.sequence? l = y' at hsecond
      cases hfirst with
      | none => exact .error _
      | some hitems =>
        cases hsecond with
        | none => exact .error _
        | some hmore =>
          exact .ok ((Parallel.refl ha).twins (.sequence (List.rel_append hitems hmore)))
    all_goals exact hbb.elim
  all_goals exact haa.elim

private theorem Like.put (hw : Like R w v) (hn : Node.Like R w.heap n n') (key : Value)
    (hst : Slot.Like R s t) : Agree (Twins R w v) (w.put n key s) (v.put n' key t) :=
  ((hn.put hw.alike key hst).map fun _ _ hp => hw.twins hp).mapError _

private theorem Like.add (hw : Like R w v) (hn : Node.Like R w.heap n n') (key : Value)
    (hst : Slot.Like R s t) : Agree (Twins R w v) (w.add n key s) (v.add n' key t) := by
  have hzero : Slot.Like R (.scalar (.int 0)) (.scalar (.int 0)) := rfl
  refine (hw.fetch hn key hzero).bind fun found found' hfound => ?_
  refine ((twins_sum hw.alike hfound hst).mapError _).bind fun made made' hmade => ?_
  obtain ⟨R', hsum, htotal⟩ := hmade
  refine (((hn.parallel hsum).put hsum.alike key htotal).mapError _).bind fun h' g' hput => ?_
  exact .ok (hw.twins (hsum.trans hput))

private theorem Like.build (hw : Like R w v) (hn : Node.Like R w.heap n n') (key value : Value) :
    Agree (Twins R w v) (w.build n key value) (v.build n' key value) := by
  refine ((hn.set hw.alike key value).map fun _ _ hset => ?_).mapError _
  obtain ⟨R', hset⟩ := hset
  exact hw.twins hset

private theorem Like.copy (hw : Like R w v) {source source' : Node}
    (hsource : Node.Like R w.heap source source') (sourceKey : Value)
    (hn : Node.Like R w.heap n n') (key : Value) :
    Agree (Twins R w v) (w.copy source sourceKey n key) (v.copy source' sourceKey n' key) := by
  have hnull : Slot.Like R (.scalar .null) (.scalar .null) := rfl
  exact (hw.fetch hsource sourceKey hnull).bind fun _ _ hfound => hw.put hn key hfound

private theorem Like.push (hw : Like R w v) (hn : Node.Like R w.heap n n') (key value : Value) :
    Agree (Twins R w v) (w.push n key value) (v.push n' key value) := by
  refine ((hn.push hw.alike key value).map fun _ _ hpush => ?_).mapError _
  obtain ⟨R', hpush⟩ := hpush
  exact hw.twins hpush

private theorem Like.emit (hw : Like R w v) (hcd : Slot.Like R c d) (hn : Node.Like R w.heap n n')
    (key : Value) (hst : Slot.Like R s t) :
    Agree (Twins R w v) (w.emit c n key s) (v.emit d n' key t) := by
  refine (hw.contextList hcd).bind fun x y hxy => ?_
  obtain ⟨hids, hitems, hothers⟩ := hxy
  refine (hw.fetch hn key hst).bind fun found found' hfound => ?_
  exact .ok (hw.twins ((Parallel.refl hw.alike).append hw.alike hids hitems hothers hfound))

private theorem Like.emitNull (hw : Like R w v) (hcd : Slot.Like R c d) :
    Agree (Twins R w v) (w.emitNull c) (v.emitNull d) := by
  refine (hw.contextList hcd).bind fun x y hxy => ?_
  obtain ⟨hids, hitems, hothers⟩ := hxy
  exact .ok (hw.twins ((Parallel.refl hw.alike).append hw.alike hids hitems hothers rfl))

end Workspace

section

variable {store store' : Store} {context context' : Slot} {w v : Workspace}

private theorem Step.twins [Limits] (hw : Workspace.Like R w v) (hstore : Store.Like R store store')
    (hcontext : Slot.Like R context context') (step : Step)
    (hslots : ∀ s ∈ step.slots, Slot.Like R s s) :
    Agree (Workspace.Twins R w v) (step.run store context w) (step.run store' context' v) := by
  cases step with
  | connect name path =>
    refine (Store.like_connect hw.alike hstore path).bind fun n n' hn => ?_
    exact .ok ⟨R, .refl hw.alike, hw.alike, .cons ⟨rfl, hn⟩ hw.nodes⟩
  | add name key amount =>
    exact (hw.node name).bind fun _ _ hn => hw.add hn key (hslots amount List.mem_cons_self)
  | set name key s =>
    exact (hw.node name).bind fun _ _ hn => hw.put hn key (hslots s List.mem_cons_self)
  | build name key value => exact (hw.node name).bind fun _ _ hn => hw.build hn key value
  | copy source sourceKey name key =>
    exact (hw.node name).bind fun _ _ hn => (hw.node source).bind fun _ _ hsource =>
      hw.copy hsource sourceKey hn key
  | push name key value => exact (hw.node name).bind fun _ _ hn => hw.push hn key value
  | storeContext name key => exact (hw.node name).bind fun _ _ hn => hw.put hn key hcontext
  | emit name key fallback =>
    exact (hw.node name).bind fun _ _ hn =>
      hw.emit hcontext hn key (hslots fallback List.mem_cons_self)
  | emitCapability => exact hw.emitNull hcontext

theorem Script.twins [Limits] (hw : Workspace.Like R w v) (hstore : Store.Like R store store')
    (hcontext : Slot.Like R context context') (script : Script)
    (hslots : ∀ s ∈ Script.slots script, Slot.Like R s s) :
    Workspace.Twins R w v (Script.run store context w script).1
        (Script.run store' context' v script).1 ∧
      (Script.run store context w script).2 = (Script.run store' context' v script).2 := by
  induction script generalizing R w v with
  | nil => exact ⟨⟨R, .refl hw.alike, hw⟩, rfl⟩
  | cons step rest ih =>
    have hstep := Step.twins hw hstore hcontext step
      fun s hs => hslots s (List.mem_append_left _ hs)
    rw [Script.run, Script.run]
    generalize step.run store context w = x at hstep
    generalize step.run store' context' v = y at hstep
    cases hstep with
    | error f => exact ⟨⟨R, .refl hw.alike, hw⟩, rfl⟩
    | ok hfirst =>
      obtain ⟨R', hfirst, hw'⟩ := hfirst
      obtain ⟨⟨R'', hrest, hfinal⟩, hanswer⟩ := ih hw' (hstore.mono hfirst.keeps)
        (hcontext.mono hfirst.keeps)
        fun s hs => (hslots s (List.mem_append_right _ hs)).mono hfirst.keeps
      exact ⟨⟨R'', hfirst.trans hrest, hfinal⟩, hanswer⟩

end

/-- Scenes that are given objects to work on, besides their store and their context. -/
class Supplied (α : Type) where
  slots : α → List Slot

instance : Supplied Script := ⟨Script.slots⟩

/-- A scene that gets hold of nothing but what it is given. Where two heaps, with all that the scene
is given, are alike, it does the same in both. -/
def Confined {α : Type} [Playable α] [Supplied α] (scene : α) : Prop :=
  ∀ ⦃R : Nat → Nat → Prop⦄ ⦃store store' : Store⦄ ⦃context context' : Slot⦄ ⦃w v : Workspace⦄,
    Workspace.Like R w v → Store.Like R store store' → Slot.Like R context context' →
      (∀ s ∈ Supplied.slots scene, Slot.Like R s s) →
        Workspace.Twins R w v (Playable.play scene store context w).1
            (Playable.play scene store' context' v).1 ∧
          (Playable.play scene store context w).2 = (Playable.play scene store' context' v).2

private theorem Script.confined [Limits] (script : Script) : Confined script :=
  fun _ _ _ _ _ _ _ hw hstore hcontext hslots => Script.twins hw hstore hcontext script hslots

structure Bound.Like {α : Type} [Supplied α] (R : Nat → Nat → Prop) (h : Heap) (m m' : Bound α) :
    Prop where
  scenes : m.scenes = m'.scenes
  mountpoint : m.mountpoint = m'.mountpoint
  store : Store.Like R m.store m'.store
  nodes : NodesLike R h m.nodes m'.nodes
  slots : ∀ s ∈ m.scenes.flatMap Supplied.slots, Slot.Like R s s

/-- A factory that gets hold of nothing but some slots and its store, and hands over scenes that are
given nothing else. -/
def Factory.Confined {α : Type} [Playable α] [Supplied α] (given : List Slot)
    (factory : Factory α) : Prop :=
  (∀ store w scenes, (factory store w).2 = .ok scenes → ∀ scene ∈ scenes, Mount.Confined scene) ∧
  ∀ ⦃R : Nat → Nat → Prop⦄ ⦃store store' : Store⦄ ⦃w v : Workspace⦄,
    Workspace.Like R w v → Store.Like R store store' → (∀ s ∈ given, Slot.Like R s s) →
      (∃ R', Parallel R w.heap v.heap R' (factory store w).1.heap (factory store' v).1.heap ∧
        Workspace.Like R' (factory store w).1 (factory store' v).1 ∧
          ∀ scenes, (factory store w).2 = .ok scenes →
            ∀ s ∈ scenes.flatMap Supplied.slots, Slot.Like R' s s) ∧
        (factory store w).2 = (factory store' v).2

theorem Program.confined_factory [Limits] (p : Program) : Factory.Confined p.slots p.factory := by
  refine ⟨fun _ _ _ _ script _ => script.confined, ?_⟩
  intro R store store' w v hw hstore hslots
  have hnull : Slot.Like R (.scalar .null) (.scalar .null) := rfl
  obtain ⟨⟨R', hsetup, hw'⟩, hanswer⟩ := Script.twins hw hstore hnull p.setup
    fun s hs => hslots s (List.mem_append_left _ hs)
  refine ⟨⟨R', hsetup, hw', fun scenes hscenes s hs => ?_⟩, congrArg (Except.map _) hanswer⟩
  obtain ⟨-, -, rfl⟩ := map_eq_ok_iff.mp hscenes
  exact (hslots s (List.mem_append_right _ hs)).mono hsetup.keeps

section

variable {α : Type} [Playable α] [Supplied α] {h g : Heap}

theorem twins_bind (ha : Alike R h g) {factory : Factory α} {given : List Slot}
    {initial initial' : Slot} (hfactory : factory.Confined given)
    (hes : Agree (Entries.Like R) (Store.initialEntries h initial)
      (Store.initialEntries g initial'))
    (hgiven : ∀ s ∈ given, Slot.Like R s s) (mountpoint rootKey : Value) :
    ∃ R', Parallel R h g R' (bind h factory initial mountpoint rootKey).1
        (bind g factory initial' mountpoint rootKey).1 ∧
      Agree (Bound.Like R' (bind h factory initial mountpoint rootKey).1)
        (bind h factory initial mountpoint rootKey).2
        (bind g factory initial' mountpoint rootKey).2 := by
  have hcreate := Store.like_create ha hes rootKey
  unfold bind
  generalize Store.create h initial rootKey = x at hcreate
  generalize Store.create g initial' rootKey = y at hcreate
  cases hcreate with
  | error e => exact ⟨R, .refl ha, .error _⟩
  | @ok made made' hmade =>
    obtain ⟨h₁, store⟩ := made
    obtain ⟨g₁, store'⟩ := made'
    obtain ⟨R₁, hmade, hstore⟩ := hmade
    have hstart : Workspace.Like R₁ ⟨h₁, []⟩ ⟨g₁, []⟩ := ⟨hmade.alike, .nil⟩
    obtain ⟨⟨R₂, hsetup, hw, hslots⟩, hanswer⟩ :=
      hfactory.2 hstart hstore fun s hs => (hgiven s hs).mono hmade.keeps
    have hboth := hmade.trans hsetup
    simp only
    generalize factory store ⟨h₁, []⟩ = x at *
    generalize factory store' ⟨g₁, []⟩ = y at *
    obtain ⟨w, answer⟩ := x
    obtain ⟨v, answer'⟩ := y
    obtain rfl : answer = answer' := hanswer
    refine ⟨R₂, ?_⟩
    cases answer with
    | error f => exact ⟨hboth, .error f⟩
    | ok scenes =>
      exact ⟨hboth, .ok ⟨rfl, rfl, hstore.mono hsetup.keeps, hw.nodes, hslots scenes rfl⟩⟩

theorem Bound.Like.run [Limits] {m m' : Bound α} (hm : Bound.Like R h m m') (ha : Alike R h g)
    (hconfined : ∀ scene ∈ m.scenes, Confined scene) (number : Value) {context context' : Slot}
    (hcontext : Slot.Like R context context') :
    ∃ R', Parallel R h g R' (m.run h number context).1 (m'.run g number context').1 ∧
      Bound.Like R' (m.run h number context).1 (m.run h number context).2.1
        (m'.run g number context').2.1 ∧
      (m.run h number context).2.2 = (m'.run g number context').2.2 := by
  unfold Bound.run
  rw [← hm.scenes]
  cases hscene : dispatch m.scenes number with
  | error f => exact ⟨R, .refl ha, hm, rfl⟩
  | ok scene =>
    have hmem := mem_of_dispatch hscene
    have hslots (s : Slot) (hs : s ∈ Supplied.slots scene) : Slot.Like R s s :=
      hm.slots s (List.mem_flatMap.mpr ⟨scene, hmem, hs⟩)
    have hstart : Workspace.Like R ⟨h, m.nodes⟩ ⟨g, m'.nodes⟩ := ⟨ha, hm.nodes⟩
    obtain ⟨⟨R', hrun, hw⟩, hanswer⟩ := hconfined scene hmem hstart hm.store hcontext hslots
    exact ⟨R', hrun, ⟨rfl, hm.mountpoint, hm.store.mono hrun.keeps, hw.nodes,
      fun s hs => (hm.slots s hs).mono hrun.keeps⟩, hanswer⟩

end

end SceneBook.Mount
