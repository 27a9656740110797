import SceneBook.Mount.Basic
import SceneBook.Proofs.Value.Links

/-!
# What scripts put under keys

The writes of each operation are told from what it starts from. Nothing else that an operation does
changes what mappings hold: it may make new objects and longer lists, but puts nothing under a key.
-/

namespace SceneBook

open Heap

/-- What writing under a key through a node puts there; there is nothing if the key is none. -/
def Node.writes (n : Node) (key : Value) (s : Slot) : List Write :=
  match key.scalar? with
  | some k => [⟨n.target, k, s⟩]
  | none => []

namespace Node

variable {h h' : Heap} {n : Node} {key : Value}

theorem rewrites_put {s : Slot} (hput : n.put h key s = .ok h') :
    Rewrites (n.writes key s) h h' := by
  obtain ⟨k, hk, rfl⟩ := map_eq_ok_iff.mp hput
  have hscalar : key.scalar? = some k := by
    unfold Value.key? at hk
    split at hk
    · next found hfound =>
      cases hk
      exact hfound
    · cases hk
  have hwrites : n.writes key s = [⟨n.target, k, s⟩] := by
    unfold writes
    rw [hscalar]
  rw [hwrites]
  exact Heap.rewrites_put h n.target k s

theorem writes_of_put_none {s : Slot} (hnone : (n.put h key s).toOption = none) :
    n.writes key s = [] := by
  unfold writes
  cases hkey : key.scalar? with
  | none => rfl
  | some k =>
    have hput : n.put h key s = .ok (h.write n.target (.mapping ((n.entries h).put k s))) := by
      rw [put, Value.key?, hkey]
      rfl
    rw [hput] at hnone
    cases hnone

theorem rewrites_set {v : Value} (hset : n.set h key v = .ok h') :
    Rewrites (n.writes key (h.add v).2) h h' :=
  (grows_add h v).rewrites.trans (rewrites_put hset)

theorem rewrites_push {v : Value} (hpush : n.push h key v = .ok h') : Rewrites [] h h' := by
  obtain ⟨found, _, hpush⟩ := bind_eq_ok_iff.mp hpush
  split at hpush
  · next id =>
    split at hpush
    · next items hitems =>
      cases hpush
      have hgrows := grows_add h v
      have hstill := hgrows.get? (sequence?_eq_some_iff.mp hitems)
      exact hgrows.rewrites.trans (rewrites_write_sequence (sequence?_eq_some_iff.mpr hstill) _)
    · cases hpush
  · cases hpush

end Node

namespace Mount

variable {store : Store} {context : Slot} {w w' : Workspace}

/-- What adding an amount puts under the key: the total, if there is one. -/
def Workspace.addWrites (w : Workspace) (n : Node) (key : Value) (amount : Slot) : List Write :=
  match w.fetch n key (.scalar (.int 0)) with
  | .ok s =>
    match Workspace.sum w.heap s amount with
    | .ok (_, total) => n.writes key total
    | .error _ => []
  | .error _ => []

def Workspace.copyWrites (w : Workspace) (source : Node) (sourceKey : Value) (n : Node)
    (key : Value) : List Write :=
  match w.fetch source sourceKey (.scalar .null) with
  | .ok s => n.writes key s
  | .error _ => []

def Step.writes (context : Slot) (w : Workspace) : Step → List Write
  | .add name key amount =>
    match w.node name with
    | .ok n => w.addWrites n key amount
    | .error _ => []
  | .set name key s =>
    match w.node name with
    | .ok n => n.writes key s
    | .error _ => []
  | .build name key value =>
    match w.node name with
    | .ok n => n.writes key (w.heap.add value).2
    | .error _ => []
  | .copy source sourceKey name key =>
    match w.node name, w.node source with
    | .ok n, .ok origin => w.copyWrites origin sourceKey n key
    | _, _ => []
  | .storeContext name key =>
    match w.node name with
    | .ok n => n.writes key context
    | .error _ => []
  | .connect .. | .push .. | .emit .. | .emitCapability => []

def Script.writes [Limits] (store : Store) (context : Slot) (w : Workspace) : Script → List Write
  | [] => []
  | step :: rest =>
    match step.run store context w with
    | .ok w' => step.writes context w ++ Script.writes store context w' rest
    | .error _ => []

def writes [Limits] (h : Heap) (p : Program) (initial : Slot) (rootKey : Value) : List Write :=
  match Store.create h initial rootKey with
  | .ok (h, store) => Script.writes store (.scalar .null) ⟨h, []⟩ p.setup
  | .error _ => []

def Bound.writes [Limits] (h : Heap) (m : Mounted) (number : Value) (context : Slot) : List Write :=
  match dispatch m.scenes number with
  | .ok script => Script.writes m.store context ⟨h, m.nodes⟩ script
  | .error _ => []

namespace Workspace

variable {n : Node} {key : Value} {s : Slot}

private theorem rewrites_put (hput : w.put n key s = .ok w') :
    Rewrites (n.writes key s) w.heap w'.heap := by
  obtain ⟨h, hnode, rfl⟩ := map_eq_ok_iff.mp (mapError_eq_ok_iff.mp hput)
  exact Node.rewrites_put hnode

private theorem grows_sum {h h' : Heap} {a b : Slot} (hsum : sum h a b = .ok (h', s)) :
    h.Grows h' := by
  unfold sum at hsum
  split at hsum
  · obtain ⟨total, _, heq⟩ := map_eq_ok_iff.mp hsum
    cases heq
    exact .refl h
  · split at hsum
    · cases hsum
      exact grows_alloc h _
    · cases hsum
  · cases hsum

private theorem rewrites_add {amount : Slot} (hadd : w.add n key amount = .ok w') :
    Rewrites (w.addWrites n key amount) w.heap w'.heap := by
  obtain ⟨found, hfound, hadd⟩ := bind_eq_ok_iff.mp hadd
  obtain ⟨⟨h, total⟩, hsum, hadd⟩ := bind_eq_ok_iff.mp hadd
  obtain ⟨h', hput, hadd⟩ := bind_eq_ok_iff.mp hadd
  cases hadd
  rw [mapError_eq_ok_iff] at hsum hput
  have hwrites : w.addWrites n key amount = n.writes key total := by
    simp only [addWrites, hfound, hsum]
  rw [hwrites]
  exact (grows_sum hsum).rewrites.trans (Node.rewrites_put hput)

private theorem rewrites_build {value : Value} (hbuild : w.build n key value = .ok w') :
    Rewrites (n.writes key (w.heap.add value).2) w.heap w'.heap := by
  obtain ⟨h, hnode, rfl⟩ := map_eq_ok_iff.mp (mapError_eq_ok_iff.mp hbuild)
  exact Node.rewrites_set hnode

private theorem rewrites_copy {source : Node} {sourceKey : Value}
    (hcopy : w.copy source sourceKey n key = .ok w') :
    Rewrites (w.copyWrites source sourceKey n key) w.heap w'.heap := by
  obtain ⟨found, hfound, hput⟩ := bind_eq_ok_iff.mp hcopy
  simp only [copyWrites, hfound]
  exact rewrites_put hput

private theorem rewrites_push {value : Value} (hpush : w.push n key value = .ok w') :
    Rewrites [] w.heap w'.heap := by
  obtain ⟨h, hnode, rfl⟩ := map_eq_ok_iff.mp (mapError_eq_ok_iff.mp hpush)
  exact Node.rewrites_push hnode

private theorem rewrites_context {id : Nat} {items : List Slot}
    (hlist : w.contextList context = .ok (id, items)) (o : Object) :
    Rewrites [] w.heap (w.heap.write id o) := by
  unfold contextList at hlist
  split at hlist
  · cases hlist
  · split at hlist
    · next hitems =>
      cases hlist
      exact rewrites_write_sequence hitems o
    · cases hlist

end Workspace

theorem Step.rewrites [Limits] {step : Step} (hrun : step.run store context w = .ok w') :
    Rewrites (step.writes context w) w.heap w'.heap := by
  cases step with
  | connect name path =>
    obtain ⟨n, _, hrun⟩ := bind_eq_ok_iff.mp hrun
    cases hrun
    exact .refl w.heap
  | add name key amount =>
    obtain ⟨n, hn, hrun⟩ := bind_eq_ok_iff.mp hrun
    simp only [Step.writes, hn]
    exact Workspace.rewrites_add hrun
  | set name key s =>
    obtain ⟨n, hn, hrun⟩ := bind_eq_ok_iff.mp hrun
    simp only [Step.writes, hn]
    exact Workspace.rewrites_put hrun
  | build name key value =>
    obtain ⟨n, hn, hrun⟩ := bind_eq_ok_iff.mp hrun
    simp only [Step.writes, hn]
    exact Workspace.rewrites_build hrun
  | copy source sourceKey name key =>
    obtain ⟨n, hn, hrun⟩ := bind_eq_ok_iff.mp hrun
    obtain ⟨origin, hfrom, hrun⟩ := bind_eq_ok_iff.mp hrun
    simp only [Step.writes, hn, hfrom]
    exact Workspace.rewrites_copy hrun
  | push name key value =>
    obtain ⟨n, _, hrun⟩ := bind_eq_ok_iff.mp hrun
    exact Workspace.rewrites_push hrun
  | storeContext name key =>
    obtain ⟨n, hn, hrun⟩ := bind_eq_ok_iff.mp hrun
    simp only [Step.writes, hn]
    exact Workspace.rewrites_put hrun
  | emit name key fallback =>
    obtain ⟨n, _, hrun⟩ := bind_eq_ok_iff.mp hrun
    obtain ⟨⟨id, items⟩, hlist, hrun⟩ := bind_eq_ok_iff.mp hrun
    obtain ⟨found, _, hrun⟩ := bind_eq_ok_iff.mp hrun
    cases hrun
    exact Workspace.rewrites_context hlist _
  | emitCapability =>
    obtain ⟨⟨id, items⟩, hlist, hrun⟩ := bind_eq_ok_iff.mp hrun
    cases hrun
    exact Workspace.rewrites_context hlist _

/-- What a script has done when a step fails stays, and so do its writes. -/
theorem Script.rewrites [Limits] (store : Store) (context : Slot) (w : Workspace)
    (script : Script) :
    Rewrites (Script.writes store context w script) w.heap
      (Script.run store context w script).1.heap := by
  induction script generalizing w with
  | nil => exact .refl w.heap
  | cons step rest ih =>
    cases hstep : step.run store context w with
    | ok w' =>
      simp only [Script.writes, Script.run, hstep]
      exact (Step.rewrites hstep).trans (ih w')
    | error f =>
      simp only [Script.writes, Script.run, hstep]
      exact .refl w.heap

theorem rewrites_create {h h' : Heap} {initial : Slot} {rootKey : Value}
    (hcreate : Store.create h initial rootKey = .ok (h', store)) : Rewrites [] h h' := by
  obtain ⟨es, _, hcreate⟩ := bind_eq_ok_iff.mp hcreate
  obtain ⟨key, _, hcreate⟩ := bind_eq_ok_iff.mp hcreate
  cases hcreate
  exact ((grows_alloc h _).trans (grows_alloc _ _)).rewrites

theorem rewrites_mount [Limits] (h : Heap) (p : Program) (initial : Slot)
    (mountpoint rootKey : Value) :
    Rewrites (writes h p initial rootKey) h (mount h p initial mountpoint rootKey).1 := by
  unfold mount bind writes
  cases hcreate : Store.create h initial rootKey with
  | error m => exact .refl h
  | ok made =>
    obtain ⟨h', store⟩ := made
    have hboth :=
      (rewrites_create hcreate).trans (Script.rewrites store (.scalar .null) ⟨h', []⟩ p.setup)
    simp only [Program.factory]
    generalize Script.run store (.scalar .null) ⟨h', []⟩ p.setup = ran at hboth ⊢
    obtain ⟨w, answer⟩ := ran
    cases answer <;> exact hboth

theorem Bound.rewrites [Limits] (h : Heap) (m : Mounted) (number : Value) (context : Slot) :
    Rewrites (m.writes h number context) h (m.run h number context).1 := by
  unfold Bound.run Bound.writes
  cases dispatch m.scenes number with
  | error r => exact .refl h
  | ok script => exact Script.rewrites m.store context ⟨h, m.nodes⟩ script

end Mount

end SceneBook
