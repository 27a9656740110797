import SceneBook.Mount.Basic
import SceneBook.Proofs.Store.Nodes

/-!
# Scripts and kept objects

A script that is given no kept object gets hold of none, whatever it does with its store and its
context. The same goes for mounting a program and for running its scenes.
-/

namespace SceneBook.Mount

open Heap

def Step.slots : Step → List Slot
  | .add _ _ s | .set _ _ s | .emit _ _ s => [s]
  | .connect .. | .build .. | .copy .. | .push .. | .storeContext .. | .emitCapability => []

def Script.slots (script : Script) : List Slot := script.flatMap Step.slots

def Program.slots (p : Program) : List Slot :=
  Script.slots p.setup ++ p.scenes.flatMap Script.slots

/-- The nodes with a name are bound to objects that are not kept. -/
structure Workspace.Sound (kept : List Nat) (w : Workspace) : Prop where
  apart : w.heap.Apart kept
  nodes : ∀ p ∈ w.nodes, w.heap.Shares kept (.ref p.2.target)

structure Bound.Sound (h : Heap) (kept : List Nat) (m : Mounted) : Prop where
  store : h.Shares kept (.ref m.store.top)
  nodes : ∀ p ∈ m.nodes, h.Shares kept (.ref p.2.target)
  slots : ∀ s ∈ m.scenes.flatMap Script.slots, h.Shares kept s

theorem Bound.Sound.mono {h h' : Heap} {kept : List Nat} {m : Mounted} (hm : m.Sound h kept)
    (hle : h.fresh ≤ h'.fresh) : m.Sound h' kept :=
  ⟨hm.store.mono hle, fun p hp => (hm.nodes p hp).mono hle, fun s hs => (hm.slots s hs).mono hle⟩

namespace Workspace

variable {kept : List Nat} {w w' : Workspace} {n : Node} {key : Value} {s context : Slot}

private theorem Sound.follow {h : Heap} (hw : w.Sound kept) (hf : Follows kept w.heap h) :
    Sound kept { w with heap := h } :=
  ⟨hf.apart, fun p hp => (hw.nodes p hp).mono hf.fresh_le⟩

private theorem Sound.node {name : Text} (hw : w.Sound kept) (hn : w.node name = .ok n) :
    w.heap.Shares kept (.ref n.target) := by
  unfold Workspace.node at hn
  split at hn
  · next found hfound =>
    cases hn
    obtain ⟨before, after, hnodes, _⟩ := List.lookup_eq_some_iff.mp hfound
    exact hw.nodes (name, n) (by simp [hnodes])
  · cases hn

private theorem shares_fetch {fallback : Slot} (hh : w.heap.Apart kept)
    (hfallback : w.heap.Shares kept fallback) (hs : w.fetch n key fallback = .ok s) :
    w.heap.Shares kept s := by
  obtain ⟨found, hfound, rfl⟩ := map_eq_ok_iff.mp (mapError_eq_ok_iff.mp hs)
  cases found with
  | none => exact hfallback
  | some t => exact Node.shares_get hh hfound

private theorem received_sum {h h' : Heap} {a b : Slot} (hh : h.Apart kept)
    (hsum : sum h a b = .ok (h', s)) : Received kept h h' [s] := by
  unfold sum at hsum
  split at hsum
  · obtain ⟨total, _, heq⟩ := map_eq_ok_iff.mp hsum
    cases heq
    exact ⟨hh.refl, by simp [Shares]⟩
  · split at hsum
    · next items more hitems hmore =>
      cases hsum
      have hboth : Received kept h h (items ++ more) := by
        refine ⟨hh.refl, fun t ht => ?_⟩
        rcases List.mem_append.mp ht with ht | ht
        · exact hh.sequence? hitems t ht
        · exact hh.sequence? hmore t ht
      exact hboth.alloc rfl
    · cases hsum
  · cases hsum

private theorem contextList_eq_ok {id : Nat} {items : List Slot}
    (h : w.contextList context = .ok (id, items)) :
    context = .ref id ∧ w.heap.sequence? id = some items := by
  unfold contextList at h
  split at h
  · cases h
  · split at h
    · next found hfound =>
      cases h
      exact ⟨rfl, hfound⟩
    · cases h

private theorem Sound.add (hw : w.Sound kept) (hn : w.heap.Shares kept (.ref n.target))
    {amount : Slot}
    (hadd : w.add n key amount = .ok w') : Follows kept w.heap w'.heap ∧ w'.Sound kept := by
  obtain ⟨found, _, hadd⟩ := bind_eq_ok_iff.mp hadd
  obtain ⟨⟨h, total⟩, hsum, hadd⟩ := bind_eq_ok_iff.mp hadd
  obtain ⟨h', hput, hadd⟩ := bind_eq_ok_iff.mp hadd
  cases hadd
  have htotal := received_sum hw.apart (mapError_eq_ok_iff.mp hsum)
  have hwritten := Node.follows_put htotal.follows.apart (hn.mono htotal.follows.fresh_le)
    (htotal.shares total List.mem_cons_self) (mapError_eq_ok_iff.mp hput)
  have hboth := htotal.follows.trans hwritten
  exact ⟨hboth, hw.follow hboth⟩

private theorem Sound.put (hw : w.Sound kept) (hn : w.heap.Shares kept (.ref n.target))
    (hs : w.heap.Shares kept s) (hput : w.put n key s = .ok w') :
    Follows kept w.heap w'.heap ∧ w'.Sound kept := by
  obtain ⟨h, hnode, rfl⟩ := map_eq_ok_iff.mp (mapError_eq_ok_iff.mp hput)
  have hwritten := Node.follows_put hw.apart hn hs hnode
  exact ⟨hwritten, hw.follow hwritten⟩

private theorem Sound.build {value : Value} (hw : w.Sound kept)
    (hn : w.heap.Shares kept (.ref n.target)) (hbuild : w.build n key value = .ok w') :
    Follows kept w.heap w'.heap ∧ w'.Sound kept := by
  obtain ⟨h, hnode, rfl⟩ := map_eq_ok_iff.mp (mapError_eq_ok_iff.mp hbuild)
  have hwritten := Node.follows_set hw.apart hn hnode
  exact ⟨hwritten, hw.follow hwritten⟩

private theorem Sound.copy {source : Node} {sourceKey : Value} (hw : w.Sound kept)
    (hn : w.heap.Shares kept (.ref n.target)) (hcopy : w.copy source sourceKey n key = .ok w') :
    Follows kept w.heap w'.heap ∧ w'.Sound kept := by
  obtain ⟨found, hfound, hput⟩ := bind_eq_ok_iff.mp hcopy
  have hnull : w.heap.Shares kept (.scalar .null) := trivial
  exact hw.put hn (shares_fetch hw.apart hnull hfound) hput

private theorem Sound.push {value : Value} (hw : w.Sound kept)
    (hpush : w.push n key value = .ok w') :
    Follows kept w.heap w'.heap ∧ w'.Sound kept := by
  obtain ⟨h, hnode, rfl⟩ := map_eq_ok_iff.mp (mapError_eq_ok_iff.mp hpush)
  have hwritten := Node.follows_push hw.apart hnode
  exact ⟨hwritten, hw.follow hwritten⟩

theorem Sound.append (hw : w.Sound kept) (hcontext : w.heap.Shares kept context)
    (hs : w.heap.Shares kept s) {id : Nat} {items : List Slot}
    (hlist : w.contextList context = .ok (id, items)) :
    let h := w.heap.write id (.sequence (items ++ [s]))
    Follows kept w.heap h ∧ Sound kept { w with heap := h } := by
  obtain ⟨rfl, hitems⟩ := contextList_eq_ok hlist
  have hitem : Received kept w.heap w.heap [s] := ⟨hw.apart.refl, by simpa using hs⟩
  have hwritten := hw.apart.append hitems hcontext hitem
  exact ⟨hwritten, hw.follow hwritten⟩

private theorem Sound.emit (hw : w.Sound kept) (hcontext : w.heap.Shares kept context)
    {fallback : Slot} (hfallback : w.heap.Shares kept fallback)
    (hemit : w.emit context n key fallback = .ok w') :
    Follows kept w.heap w'.heap ∧ w'.Sound kept := by
  obtain ⟨⟨id, items⟩, hlist, hemit⟩ := bind_eq_ok_iff.mp hemit
  obtain ⟨found, hfound, hemit⟩ := bind_eq_ok_iff.mp hemit
  cases hemit
  exact hw.append hcontext (shares_fetch hw.apart hfallback hfound) hlist

private theorem Sound.emitNull (hw : w.Sound kept) (hcontext : w.heap.Shares kept context)
    (hemit : w.emitNull context = .ok w') : Follows kept w.heap w'.heap ∧ w'.Sound kept := by
  obtain ⟨⟨id, items⟩, hlist, hemit⟩ := bind_eq_ok_iff.mp hemit
  cases hemit
  exact hw.append hcontext (s := .scalar .null) trivial hlist

end Workspace

section

variable {kept : List Nat} {w : Workspace} {store : Store} {context : Slot}

private theorem Step.sound_run [Limits] {step : Step} {w' : Workspace} (hw : w.Sound kept)
    (htop : w.heap.Shares kept (.ref store.top)) (hcontext : w.heap.Shares kept context)
    (hslots : ∀ s ∈ step.slots, w.heap.Shares kept s)
    (hrun : step.run store context w = .ok w') :
    Follows kept w.heap w'.heap ∧ w'.Sound kept := by
  cases step with
  | connect name path =>
    obtain ⟨n, hn, hrun⟩ := bind_eq_ok_iff.mp hrun
    cases hrun
    refine ⟨hw.apart.refl, hw.apart, fun p hp => ?_⟩
    rcases List.mem_cons.mp hp with rfl | hp
    · exact Store.shares_connect hw.apart htop hn
    · exact hw.nodes p hp
  | add name key amount =>
    obtain ⟨n, hn, hrun⟩ := bind_eq_ok_iff.mp hrun
    exact hw.add (hw.node hn) hrun
  | set name key s =>
    obtain ⟨n, hn, hrun⟩ := bind_eq_ok_iff.mp hrun
    exact hw.put (hw.node hn) (hslots s List.mem_cons_self) hrun
  | build name key value =>
    obtain ⟨n, hn, hrun⟩ := bind_eq_ok_iff.mp hrun
    exact hw.build (hw.node hn) hrun
  | copy source sourceKey name key =>
    obtain ⟨n, hn, hrun⟩ := bind_eq_ok_iff.mp hrun
    obtain ⟨origin, _, hrun⟩ := bind_eq_ok_iff.mp hrun
    exact hw.copy (hw.node hn) hrun
  | push name key value =>
    obtain ⟨n, _, hrun⟩ := bind_eq_ok_iff.mp hrun
    exact hw.push hrun
  | storeContext name key =>
    obtain ⟨n, hn, hrun⟩ := bind_eq_ok_iff.mp hrun
    exact hw.put (hw.node hn) hcontext hrun
  | emit name key fallback =>
    obtain ⟨n, _, hrun⟩ := bind_eq_ok_iff.mp hrun
    exact hw.emit hcontext (hslots fallback List.mem_cons_self) hrun
  | emitCapability => exact hw.emitNull hcontext hrun

/-- The steps that were done before one failed keep to the same bounds. -/
theorem Script.sound_run [Limits] {script : Script} (hw : w.Sound kept)
    (htop : w.heap.Shares kept (.ref store.top)) (hcontext : w.heap.Shares kept context)
    (hslots : ∀ s ∈ Script.slots script, w.heap.Shares kept s) :
    Follows kept w.heap (Script.run store context w script).1.heap ∧
      (Script.run store context w script).1.Sound kept := by
  induction script generalizing w with
  | nil => exact ⟨hw.apart.refl, hw⟩
  | cons step rest ih =>
    rw [Script.run]
    split
    · next w' hstep =>
      obtain ⟨hfirst, hw'⟩ := Step.sound_run hw htop hcontext
        (fun s hs => hslots s (List.mem_append_left _ hs)) hstep
      have hle := hfirst.fresh_le
      obtain ⟨hrest, hfinal⟩ := ih hw' (htop.mono hle) (hcontext.mono hle)
        fun s hs => (hslots s (List.mem_append_right _ hs)).mono hle
      exact ⟨hfirst.trans hrest, hfinal⟩
    · exact ⟨hw.apart.refl, hw⟩

end

variable {h : Heap} {kept : List Nat}

theorem mem_of_dispatch [Limits] {α : Type} {scenes : List α} {number : Value} {scene : α}
    (hscene : dispatch scenes number = .ok scene) : scene ∈ scenes := by
  unfold dispatch at hscene
  split at hscene
  · split at hscene
    · next n found hfound =>
      cases hscene
      split at hfound
      · exact List.mem_of_getElem? hfound
      · cases hfound
    · cases hscene
  · cases hscene

/-- The scenes that a factory hands over are those of the program. -/
theorem handed_over {α : Type} {factory : Factory α} {initial : Slot} {mountpoint rootKey : Value}
    {h' : Heap} {m : Bound α} (hm : bind h factory initial mountpoint rootKey = (h', .ok m)) :
    ∃ w, factory m.store w = (⟨h', m.nodes⟩, .ok m.scenes) := by
  unfold bind at hm
  split at hm
  · cases hm
  · next made store _ =>
    split at hm
    · next w scenes hmade =>
      cases hm
      exact ⟨⟨made, []⟩, hmade⟩
    · cases hm

@[simp] theorem Bound.scenes_run [Limits] {α : Type} [Playable α] (h : Heap) (m : Bound α)
    (number : Value) (context : Slot) :
    (m.run h number context).2.1.scenes = m.scenes := by
  unfold Bound.run
  cases dispatch m.scenes number <;> rfl

/-- Mounting a program whose steps are given no kept object, from whatever it starts. -/
theorem follows_mount [Limits] {p : Program} (initial : Slot) (mountpoint rootKey : Value)
    (hh : h.Apart kept) (hslots : ∀ s ∈ p.slots, h.Shares kept s) :
    Follows kept h (mount h p initial mountpoint rootKey).1 ∧
      ∀ m, (mount h p initial mountpoint rootKey).2 = .ok m →
        m.Sound (mount h p initial mountpoint rootKey).1 kept := by
  unfold mount bind
  cases hcreate : Store.create h initial rootKey with
  | error e => exact ⟨hh.refl, by simp⟩
  | ok made =>
    obtain ⟨h', store⟩ := made
    obtain ⟨hmade, htop⟩ := Store.follows_create hh hcreate
    have hgiven (s : Slot) (hs : s ∈ p.slots) : h'.Shares kept s :=
      (hslots s hs).mono hmade.fresh_le
    have hstart : Workspace.Sound kept ⟨h', []⟩ := ⟨hmade.apart, by simp⟩
    have hnull : h'.Shares kept (.scalar .null) := trivial
    have hsteps : ∀ s ∈ Script.slots p.setup, h'.Shares kept s :=
      fun s hs => hgiven s (List.mem_append_left _ hs)
    obtain ⟨hsetup, hw⟩ := Script.sound_run hstart htop hnull hsteps
    have hboth := hmade.trans hsetup
    simp only [Program.factory]
    generalize Script.run store (.scalar .null) ⟨h', []⟩ p.setup = ran at hsetup hw hboth ⊢
    obtain ⟨w, answer⟩ := ran
    cases answer with
    | error f => exact ⟨hboth, by simp [Except.map]⟩
    | ok _ =>
      refine ⟨hboth, fun m hm => ?_⟩
      cases hm
      exact ⟨htop.mono hsetup.fresh_le, hw.nodes,
        fun s hs => (hgiven s (List.mem_append_right _ hs)).mono hsetup.fresh_le⟩

theorem Bound.sound_run [Limits] {m : Mounted} (number : Value) {context : Slot}
    (hh : h.Apart kept) (hm : m.Sound h kept) (hcontext : h.Shares kept context) :
    Follows kept h (m.run h number context).1 ∧
      (m.run h number context).2.1.Sound (m.run h number context).1 kept := by
  unfold Bound.run
  cases hscene : dispatch m.scenes number with
  | error f => exact ⟨hh.refl, hm⟩
  | ok script =>
    have hslots (s : Slot) (hs : s ∈ Script.slots script) : h.Shares kept s :=
      hm.slots s (List.mem_flatMap.mpr ⟨script, mem_of_dispatch hscene, hs⟩)
    have hstart : Workspace.Sound kept ⟨h, m.nodes⟩ := ⟨hh, hm.nodes⟩
    obtain ⟨hrun, hw⟩ := Script.sound_run hstart hm.store hcontext hslots
    have hafter := hm.mono hrun.fresh_le
    exact ⟨hrun, hafter.store, hw.nodes, hafter.slots⟩

end SceneBook.Mount
