import SceneBook.Proofs.Store.RootKey
import SceneBook.Proofs.Value.Keys

/-!
# Handles on one mapping

Every handle that a host or a program has got is bound to a mapping, and many may be bound to the
same one. What is written through one of them is read through all of these, and no other mapping is
touched. A key keeps its place among the keys once it is there; new keys come after it.
-/

namespace SceneBook

open Heap

namespace Entries

private theorem keys_prefix_put {α : Type} (es : Entries α) (k : Scalar) (v : α) :
    es.keys <+: (es.put k v).keys := by
  rw [keys_put]
  split
  · exact List.prefix_rfl
  · exact List.prefix_append _ _

private theorem keys_prefix_written (es : Entries Slot) (writes : List Write) :
    es.keys <+: (es.written writes).keys := by
  induction writes generalizing es with
  | nil => exact List.prefix_rfl
  | cons w rest ih => exact (keys_prefix_put es w.key w.slot).trans (ih _)

end Entries

namespace Node

def IsBound (h : Heap) (n : Node) : Prop := (h.mapping? n.target).isSome

/-- What a handle reads when a slot has been put under a key of its mapping. -/
structure Sees (n : Node) (h h' : Heap) (key : Scalar) (s : Slot) : Prop where
  read : n.get h' (.scalar key) = .ok (some s)
  among : ∃ k ∈ n.keys h', k.same key
  others : ∀ k, key.same k = false → n.get h' (.scalar k) = n.get h (.scalar k)
  order : n.keys h' =
    if (n.keys h).any fun k => k.same key then n.keys h else n.keys h ++ [key]

/-- What a write through a handle leaves. All handles on its mapping see the slot, all other
mappings have the bindings that they had, and every other object is as it was, or as it was made for
this. -/
structure Leaves (n : Node) (h made h' : Heap) (key : Scalar) (s : Slot) : Prop where
  alike : ∀ n' : Node, n'.target = n.target → n'.Sees h h' key s
  bindings : ∀ id ≠ n.target, ∀ es, h.mapping? id = some es → h'.mapping? id = some es
  objects : ∀ id ≠ n.target, h'.get? id = made.get? id

variable {h h' made : Heap} {n : Node} {key : Scalar} {s : Slot} {ws : List Write}

private theorem IsBound.mono (hn : n.IsBound h) (hrewrites : Rewrites ws h h') : n.IsBound h' :=
  hrewrites.changes.mappings n.target hn

private theorem isBound_connect [Limits] {st : Store} {path : Value}
    (hn : st.connect h path = .ok n) :
    n.IsBound h := by
  obtain ⟨links, hroute⟩ := Store.route_of_connect hn
  exact (mappingId?_ref_eq_some_iff.mp (Store.follow_of_route [] hroute).2).2

private theorem sees_of_rewrites (hn : n.IsBound h)
    (hrewrites : Rewrites [⟨n.target, key, s⟩] h h') :
    n.Sees h h' key s := by
  obtain ⟨es, hes⟩ := Option.isSome_iff_exists.mp hn
  have hbefore : n.entries h = es := by rw [entries, hes, Option.getD_some]
  have hafter : n.entries h' = es.put key s := by
    rw [entries, hrewrites n.target es hes]
    simp [writesTo, Entries.written]
  constructor
  · change Except.ok ((n.entries h').find? key) = _
    rw [hafter, Entries.find?_put, if_pos (Scalar.same_self key)]
  · rw [keys, hafter, ← List.any_eq_true, ← Entries.has_eq_any, Entries.has, Entries.find?_put,
      if_pos (Scalar.same_self key)]
    rfl
  · intro k hk
    change Except.ok ((n.entries h').find? k) = Except.ok ((n.entries h).find? k)
    rw [hafter, hbefore, Entries.find?_put, hk]
    rfl
  · rw [keys, keys, hafter, hbefore, Entries.keys_put, Entries.has_eq_any]

private theorem leaves_put (hn : n.IsBound h) (hgrows : h.Grows made)
    (hput : n.put made (.scalar key) s = .ok h') : n.Leaves h made h' key s := by
  have hrewrites : Rewrites [⟨n.target, key, s⟩] h h' := hgrows.rewrites.trans (rewrites_put hput)
  refine ⟨fun n' hn' => ?_, fun id hid es hes => ?_, fun id hid => ?_⟩
  · rw [← hn'] at hrewrites
    rw [IsBound, ← hn'] at hn
    exact sees_of_rewrites hn hrewrites
  · rw [hrewrites id es hes]
    simp [writesTo, Entries.written, Ne.symm hid]
  · cases hput
    exact get?_write_of_ne _ hid

private theorem keys_prefix (hrewrites : Rewrites ws h h') (n : Node) : n.keys h <+: n.keys h' := by
  unfold keys entries
  cases hes : h.mapping? n.target with
  | none => exact List.nil_prefix
  | some es =>
    rw [hrewrites n.target es hes]
    exact Entries.keys_prefix_written es _

end Node

namespace Mount

def AllBound (h : Heap) (nodes : List (Text × Node)) : Prop := ∀ p ∈ nodes, p.2.IsBound h

private theorem AllBound.mono {h h' : Heap} {ws : List Write} {nodes : List (Text × Node)}
    (hnodes : AllBound h nodes) (hrewrites : Rewrites ws h h') : AllBound h' nodes :=
  fun p hp => (hnodes p hp).mono hrewrites

variable {store : Store} {context : Slot} {w w' : Workspace}

private theorem Workspace.nodes_of_heap {x : Except Misuse Heap}
    (hrun : (x.map fun h => { w with heap := h }).mapError Failure.misuse = .ok w') :
    w'.nodes = w.nodes := by
  obtain ⟨h, _, rfl⟩ := map_eq_ok_iff.mp (mapError_eq_ok_iff.mp hrun)
  rfl

private theorem Step.nodes_of_run [Limits] {step : Step}
    (hrun : step.run store context w = .ok w') :
    w'.nodes = w.nodes ∨ ∃ name path n, store.connect w.heap path = .ok n ∧
      w' = { w with nodes := (name, n) :: w.nodes } := by
  cases step with
  | connect name path =>
    obtain ⟨n, hn, hrun⟩ := bind_eq_ok_iff.mp hrun
    cases hrun
    exact .inr ⟨name, path, n, hn, rfl⟩
  | add name key amount =>
    obtain ⟨n, _, hrun⟩ := bind_eq_ok_iff.mp hrun
    obtain ⟨found, _, hrun⟩ := bind_eq_ok_iff.mp hrun
    obtain ⟨made, _, hrun⟩ := bind_eq_ok_iff.mp hrun
    obtain ⟨h, _, hrun⟩ := bind_eq_ok_iff.mp hrun
    cases hrun
    exact .inl rfl
  | set name key s =>
    obtain ⟨n, _, hrun⟩ := bind_eq_ok_iff.mp hrun
    exact .inl (Workspace.nodes_of_heap hrun)
  | build name key value =>
    obtain ⟨n, _, hrun⟩ := bind_eq_ok_iff.mp hrun
    exact .inl (Workspace.nodes_of_heap hrun)
  | copy source sourceKey name key =>
    obtain ⟨n, _, hrun⟩ := bind_eq_ok_iff.mp hrun
    obtain ⟨origin, _, hrun⟩ := bind_eq_ok_iff.mp hrun
    obtain ⟨found, _, hrun⟩ := bind_eq_ok_iff.mp hrun
    exact .inl (Workspace.nodes_of_heap hrun)
  | push name key value =>
    obtain ⟨n, _, hrun⟩ := bind_eq_ok_iff.mp hrun
    exact .inl (Workspace.nodes_of_heap hrun)
  | storeContext name key =>
    obtain ⟨n, _, hrun⟩ := bind_eq_ok_iff.mp hrun
    exact .inl (Workspace.nodes_of_heap hrun)
  | emit name key fallback =>
    obtain ⟨n, _, hrun⟩ := bind_eq_ok_iff.mp hrun
    obtain ⟨list, _, hrun⟩ := bind_eq_ok_iff.mp hrun
    obtain ⟨found, _, hrun⟩ := bind_eq_ok_iff.mp hrun
    cases hrun
    exact .inl rfl
  | emitCapability =>
    obtain ⟨list, _, hrun⟩ := bind_eq_ok_iff.mp hrun
    cases hrun
    exact .inl rfl

private theorem Step.allBound [Limits] {step : Step} (hw : AllBound w.heap w.nodes)
    (hrun : step.run store context w = .ok w') : AllBound w'.heap w'.nodes := by
  rcases Step.nodes_of_run hrun with hsame | ⟨name, path, n, hn, rfl⟩
  · rw [hsame]
    exact hw.mono (Step.rewrites hrun)
  · exact List.forall_mem_cons.mpr ⟨Node.isBound_connect hn, hw⟩

private theorem Script.allBound [Limits] {script : Script} (hw : AllBound w.heap w.nodes) :
    AllBound (Script.run store context w script).1.heap
      (Script.run store context w script).1.nodes := by
  induction script generalizing w with
  | nil => exact hw
  | cons step rest ih =>
    rw [Script.run]
    split
    · next w' hstep => exact ih (Step.allBound hw hstep)
    · exact hw

private theorem allBound_mount [Limits] {h h' : Heap} {p : Program} {initial : Slot}
    {mountpoint rootKey : Value} {m : Mounted}
    (hmount : mount h p initial mountpoint rootKey = (h', .ok m)) : AllBound h' m.nodes := by
  unfold mount bind at hmount
  split at hmount
  · cases hmount
  · next made store _ =>
    have hsetup := @Script.allBound store (.scalar .null) ⟨made, []⟩ _ p.setup
      (List.forall_mem_nil _)
    simp only [Program.factory] at hmount
    generalize Script.run store (.scalar .null) ⟨made, []⟩ p.setup = ran at hsetup hmount
    obtain ⟨w, answer⟩ := ran
    cases answer with
    | error f => cases hmount
    | ok _ =>
      cases hmount
      exact hsetup

private theorem Bound.allBound_run [Limits] {h : Heap} {m : Mounted} (number : Value)
    (context : Slot) (hm : AllBound h m.nodes) :
    AllBound (m.run h number context).1 (m.run h number context).2.1.nodes := by
  unfold Bound.run
  cases dispatch m.scenes number with
  | error r => exact hm
  | ok script => exact Script.allBound (w := ⟨h, m.nodes⟩) hm

end Mount

namespace Session

/-- The nodes of the host and of all its programs. -/
def handles (x : Session) : List Node :=
  x.nodes ++ x.programs.flatMap fun m => m.nodes.map Prod.snd

def Bound (x : Session) : Prop := ∀ n ∈ x.handles, n.IsBound x.heap

variable {x y : Session}

private theorem bound_iff : x.Bound ↔
    (∀ n ∈ x.nodes, n.IsBound x.heap) ∧ ∀ m ∈ x.programs, Mount.AllBound x.heap m.nodes := by
  simp only [Bound, handles, List.forall_mem_append, List.mem_flatMap, List.mem_map,
    Mount.AllBound]
  constructor
  · rintro ⟨hnodes, hprograms⟩
    exact ⟨hnodes, fun m hm p hp => hprograms p.2 ⟨m, hm, p, hp, rfl⟩⟩
  · rintro ⟨hnodes, hprograms⟩
    refine ⟨hnodes, ?_⟩
    rintro _ ⟨m, hm, p, hp, rfl⟩
    exact hprograms m hm p hp

/-- The handles there are stay bound whatever is written; new ones have to be looked at. -/
theorem Bound.extend {ws : List Write} (hx : x.Bound) (hrewrites : Rewrites ws x.heap y.heap)
    (hnodes : ∀ n ∈ y.nodes, n ∈ x.nodes ∨ n.IsBound y.heap)
    (hprograms : ∀ m ∈ y.programs, m ∈ x.programs ∨ Mount.AllBound y.heap m.nodes) : y.Bound := by
  obtain ⟨holdNodes, holdPrograms⟩ := bound_iff.mp hx
  refine bound_iff.mpr ⟨fun n hn => ?_, fun m hm => ?_⟩
  · rcases hnodes n hn with hold | hnew
    · exact (holdNodes n hold).mono hrewrites
    · exact hnew
  · rcases hprograms m hm with hold | hnew
    · exact (holdPrograms m hold).mono hrewrites
    · exact hnew

private theorem Bound.same {ws : List Write} (hx : x.Bound) (hrewrites : Rewrites ws x.heap y.heap)
    (hnodes : y.nodes = x.nodes) (hprograms : y.programs = x.programs) : y.Bound :=
  hx.extend hrewrites (fun _ hn => .inl (hnodes ▸ hn)) fun _ hm => .inl (hprograms ▸ hm)

private theorem Bound.act [Limits] {a : Action} (hx : x.Bound) (hy : x.act? a = some y) :
    y.Bound := by
  have hrewrites := rewrites_of_act hy
  cases a with
  | create rootKey =>
    obtain ⟨made, _, hy⟩ := Option.bind_eq_some_iff.mp hy
    cases hy
    exact hx.same hrewrites rfl rfl
  | mount program mountpoint rootKey =>
    rw [act?] at hy
    split at hy
    · split at hy
      · next h m hmount =>
        cases hy
        refine hx.extend hrewrites (fun _ hn => .inl hn) fun other hother => ?_
        rcases List.mem_append.mp hother with hother | hother
        · exact .inl hother
        · rw [List.mem_singleton.mp hother]
          exact .inr (Mount.allBound_mount hmount)
      · cases hy
        exact hx.same hrewrites rfl rfl
    · cases hy
  | run i number context =>
    obtain ⟨m, hm, hy⟩ := Option.bind_eq_some_iff.mp hy
    split at hy
    · cases hy
      have hprogram := (bound_iff.mp hx).2 m (List.mem_of_getElem? hm)
      refine hx.extend hrewrites (fun _ hn => .inl hn) fun other hother => ?_
      rcases List.mem_or_eq_of_mem_set hother with hother | rfl
      · exact .inl hother
      · exact .inr (Mount.Bound.allBound_run number context hprogram)
    · cases hy
  | connect i path =>
    obtain ⟨st, _, hy⟩ := Option.bind_eq_some_iff.mp hy
    obtain ⟨n, hn, hy⟩ := Option.bind_eq_some_iff.mp hy
    cases hy
    refine hx.extend hrewrites (fun other hother => ?_) fun _ hm => .inl hm
    rcases List.mem_append.mp hother with hother | hother
    · exact .inl hother
    · rw [List.mem_singleton.mp hother]
      exact .inr (Node.isBound_connect (toOption_eq_some_iff.mp hn))
  | get i key =>
    obtain ⟨n, _, hy⟩ := Option.bind_eq_some_iff.mp hy
    obtain ⟨found, _, hy⟩ := Option.bind_eq_some_iff.mp hy
    obtain ⟨s, _, hy⟩ := Option.bind_eq_some_iff.mp hy
    cases hy
    exact hx.same hrewrites rfl rfl
  | hold v =>
    cases hy
    exact hx.same hrewrites rfl rfl
  | set i key v =>
    obtain ⟨n, _, hy⟩ := Option.bind_eq_some_iff.mp hy
    obtain ⟨h, _, hy⟩ := Option.bind_eq_some_iff.mp hy
    cases hy
    exact hx.same hrewrites rfl rfl
  | put i key j =>
    obtain ⟨n, _, hy⟩ := Option.bind_eq_some_iff.mp hy
    obtain ⟨s, _, hy⟩ := Option.bind_eq_some_iff.mp hy
    obtain ⟨h, _, hy⟩ := Option.bind_eq_some_iff.mp hy
    cases hy
    exact hx.same hrewrites rfl rfl
  | link i key j =>
    obtain ⟨n, _, hy⟩ := Option.bind_eq_some_iff.mp hy
    obtain ⟨target, _, hy⟩ := Option.bind_eq_some_iff.mp hy
    obtain ⟨h, _, hy⟩ := Option.bind_eq_some_iff.mp hy
    cases hy
    exact hx.same hrewrites rfl rfl
  | push i key v =>
    obtain ⟨n, _, hy⟩ := Option.bind_eq_some_iff.mp hy
    obtain ⟨h, _, hy⟩ := Option.bind_eq_some_iff.mp hy
    cases hy
    exact hx.same hrewrites rfl rfl
  | append i j =>
    obtain ⟨list, _, hy⟩ := Option.bind_eq_some_iff.mp hy
    obtain ⟨s, _, hy⟩ := Option.bind_eq_some_iff.mp hy
    split at hy
    · obtain ⟨items, _, hy⟩ := Option.bind_eq_some_iff.mp hy
      cases hy
      exact hx.same hrewrites rfl rfl
    · cases hy
  | snapshot i =>
    obtain ⟨st, _, hy⟩ := Option.bind_eq_some_iff.mp hy
    obtain ⟨taken, _, hy⟩ := Option.bind_eq_some_iff.mp hy
    cases hy
    exact hx.same hrewrites rfl rfl

private theorem Bound.step [Limits] (hx : x.Bound) (a : Action) : (x.step a).Bound := by
  unfold Session.step
  cases hact : x.act? a with
  | none => exact hx
  | some y => exact hx.act hact

private theorem Bound.run [Limits] (hx : x.Bound) (actions : List Action) :
    (x.run actions).Bound := by
  induction actions generalizing x with
  | nil => exact hx
  | cons a rest ih => exact ih (hx.step a)

private theorem start_bound (es : Entries Value) : (start es).Bound := by
  intro n hn
  cases hn

/-- Whatever a host has done, a slot that is put under a key through one of its handles is read
there through all handles on the same mapping, and so is a value that is set, as the object that was
made of it. The key comes last if it is new. All else is as before. So a mapping never loses a key,
and never changes their order, but may get more of them after these. -/
theorem read_after_write [Limits] (es : Entries Value) (earlier : List Action) :
    let x := (start es).run earlier
    (∀ n ∈ x.handles, ∀ key : Scalar,
      (∀ s, ∃ h', n.put x.heap (.scalar key) s = .ok h' ∧ n.Leaves x.heap x.heap h' key s) ∧
      ∀ v, ∃ h', n.set x.heap (.scalar key) v = .ok h' ∧
        n.Leaves x.heap (x.heap.add v).1 h' key (x.heap.add v).2) ∧
    ∀ (later : List Action) (n : Node), n.keys x.heap <+: n.keys (x.run later).heap := by
  intro x
  have hx : x.Bound := (start_bound es).run earlier
  refine ⟨fun n hn key => ⟨fun s => ?_, fun v => ?_⟩, fun later n => ?_⟩
  · exact ⟨_, rfl, Node.leaves_put (hx n hn) (.refl x.heap) rfl⟩
  · exact ⟨_, rfl, Node.leaves_put (hx n hn) (grows_add x.heap v) rfl⟩
  · exact Node.keys_prefix (rewrites_run x later) n

/-- A theme that a host has handles on by two paths. -/
def shared : Session :=
  (start [(.text "theme", .map [(.text "color", .text "red")])]).run
    [.create (.text "root"), .connect 0 (.list [.text "root", .text "theme"]),
      .connect 0 .null, .link 1 (.text "alias") 0,
      .connect 0 (.list [.text "root", .text "alias"])]

/-- A size that is set through one handle on the theme is read through the other, after the color;
the root has its keys as before, and so has the theme whatever is done later. -/
theorem read_after_write_shared :
    let n : Node := ⟨[.text "root", .text "theme"], 0⟩
    let other : Node := ⟨[.text "root", .text "alias"], 0⟩
    n ∈ shared.handles ∧ other ∈ shared.handles ∧
    ∃ h', n.set shared.heap (.text "size") (.int 3) = .ok h' ∧
      other.get h' (.text "size") = .ok (some (.scalar (.int 3))) ∧
      other.get h' (.text "color") = .ok (some (.scalar (.text "red"))) ∧
      other.keys h' = [.text "color", .text "size"] ∧
      h'.mapping? 2 = some [(.text "theme", .ref 0), (.text "alias", .ref 0)] ∧
      ∀ later, [.text "color"] <+: other.keys (shared.run later).heap := by
  intro n other
  have hn : n ∈ shared.handles := .head _
  have hother : other ∈ shared.handles := .tail _ (.tail _ (.head _))
  obtain ⟨hwrites, hkeys⟩ := read_after_write [(.text "theme", .map [(.text "color", .text "red")])]
    [.create (.text "root"), .connect 0 (.list [.text "root", .text "theme"]),
      .connect 0 .null, .link 1 (.text "alias") 0,
      .connect 0 (.list [.text "root", .text "alias"])]
  obtain ⟨h', hset, hleaves⟩ := (hwrites n hn (.text "size")).2 (.int 3)
  have hsees := hleaves.alike other rfl
  refine ⟨hn, hother, h', hset, hsees.read, hsees.others (.text "color") (by decide), ?_, ?_,
    fun later => hkeys later other⟩
  · rw [hsees.order]
    decide
  · exact hleaves.bindings 2 (by decide) _ rfl

end Session

end SceneBook
