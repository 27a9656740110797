import SceneBook.Proofs.Mount.Scripts

/-!
# Hosts of stores

A host has a mapping of its own, from which it makes stores and mounts programs, and works on all of
them in any order. Its mapping and the snapshots that it takes stay what they are: no store ever
leads to them.
-/

namespace SceneBook

/-- What a host has in hand. It holds the values it has made and those it has read. -/
structure Session where
  heap : Heap
  initial : Nat
  snapshots : List Nat
  stores : List Store
  programs : List Mount.Mounted
  nodes : List Node
  held : List Slot

/-- What a host may do. Stores, programs, nodes and held values are named by their positions. -/
inductive Action
  /-- Makes one more store from the mapping of the host. -/
  | create (rootKey : Value)
  /-- Mounts a program on one more store from that mapping. -/
  | mount (program : Mount.Program) (mountpoint rootKey : Value)
  | run (program : Nat) (number : Value) (context : Slot)
  | connect (store : Nat) (path : Value)
  | get (node : Nat) (key : Value)
  | hold (value : Value)
  | set (node : Nat) (key value : Value)
  | put (node : Nat) (key : Value) (held : Nat)
  /-- Puts the mapping of one node under a key of another. -/
  | link (node : Nat) (key : Value) (target : Nat)
  | push (node : Nat) (key value : Value)
  /-- Adds a held value to the end of a held list. -/
  | append (list : Nat) (item : Nat)
  | snapshot (store : Nat)

namespace Session

def kept (x : Session) : List Nat := x.initial :: x.snapshots

/-- A host whose mapping has the given entries. -/
def start (es : Entries Value) : Session :=
  let (h, slots) := Heap.empty.placeEntries [] es
  let (h, id) := h.alloc (.mapping slots)
  ⟨h, id, [], [], [], [], []⟩

def holds (x : Session) : Slot → Bool
  | .scalar _ => true
  | s => x.held.contains s

/-- What an action leaves, unless it fails or names what the host does not have. -/
def act? [Limits] (x : Session) : Action → Option Session
  | .create rootKey => do
    let (h, st) ← (Store.create x.heap (.ref x.initial) rootKey).toOption
    some { x with heap := h, stores := x.stores ++ [st] }
  | .mount program mountpoint rootKey =>
    if program.slots.all x.holds then
      match Mount.mount x.heap program (.ref x.initial) mountpoint rootKey with
      | (h, .ok m) =>
        some { x with heap := h, stores := x.stores ++ [m.store], programs := x.programs ++ [m] }
      | (h, .error _) => some { x with heap := h }
    else none
  | .run i number context => do
    let m ← x.programs[i]?
    if x.holds context then
      let (h, m', _) := m.run x.heap number context
      some { x with heap := h, programs := x.programs.set i m' }
    else none
  | .connect i path => do
    let st ← x.stores[i]?
    let n ← (st.connect x.heap path).toOption
    some { x with nodes := x.nodes ++ [n] }
  | .get i key => do
    let n ← x.nodes[i]?
    let found ← (n.get x.heap key).toOption
    let s ← found
    some { x with held := x.held ++ [s] }
  | .hold v =>
    let (h, s) := x.heap.add v
    some { x with heap := h, held := x.held ++ [s] }
  | .set i key v => do
    let n ← x.nodes[i]?
    let h ← (n.set x.heap key v).toOption
    some { x with heap := h }
  | .put i key j => do
    let n ← x.nodes[i]?
    let s ← x.held[j]?
    let h ← (n.put x.heap key s).toOption
    some { x with heap := h }
  | .link i key j => do
    let n ← x.nodes[i]?
    let target ← x.nodes[j]?
    let h ← (n.put x.heap key (.ref target.target)).toOption
    some { x with heap := h }
  | .push i key v => do
    let n ← x.nodes[i]?
    let h ← (n.push x.heap key v).toOption
    some { x with heap := h }
  | .append i j => do
    let list ← x.held[i]?
    let s ← x.held[j]?
    match list with
    | .ref id => do
      let items ← x.heap.sequence? id
      some { x with heap := x.heap.write id (.sequence (items ++ [s])) }
    | .scalar _ => none
  | .snapshot i => do
    let st ← x.stores[i]?
    let (h, id) ← (st.snapshot x.heap).toOption
    some { x with heap := h, snapshots := x.snapshots ++ [id] }

/-- An action that fails changes nothing that the host can see. -/
def step [Limits] (x : Session) (a : Action) : Session := (x.act? a).getD x

def run [Limits] (x : Session) (actions : List Action) : Session := actions.foldl step x

/-- Nothing that a host works with leads to its own mapping or to a snapshot. -/
structure Sound (x : Session) : Prop where
  apart : x.heap.Apart x.kept
  mappings : ∀ id ∈ x.kept, (x.heap.mapping? id).isSome
  stores : ∀ st ∈ x.stores, x.heap.Shares x.kept (.ref st.top)
  programs : ∀ m ∈ x.programs, m.Sound x.heap x.kept
  nodes : ∀ n ∈ x.nodes, x.heap.Shares x.kept (.ref n.target)
  held : ∀ s ∈ x.held, x.heap.Shares x.kept s

/-- What one session keeps of an earlier one. -/
structure Keeps (x y : Session) : Prop where
  initial : y.initial = x.initial
  snapshots : x.snapshots <+: y.snapshots
  same : ∀ id ∈ x.kept, y.heap.get? id = x.heap.get? id

variable {x y : Session} {h : Heap}

open Heap

private theorem Keeps.refl (x : Session) : x.Keeps x := ⟨rfl, List.prefix_rfl, fun _ _ => rfl⟩

private theorem Keeps.kept_subset (hxy : x.Keeps y) : ∀ id ∈ x.kept, id ∈ y.kept := by
  intro id hid
  rcases List.mem_cons.mp hid with rfl | hid
  · exact List.mem_cons.mpr (Or.inl hxy.initial.symm)
  · exact List.mem_cons_of_mem _ (hxy.snapshots.subset hid)

private theorem Keeps.trans {z : Session} (hxy : x.Keeps y) (hyz : y.Keeps z) : x.Keeps z :=
  ⟨hyz.initial.trans hxy.initial, hxy.snapshots.trans hyz.snapshots,
    fun id hid => (hyz.same id (hxy.kept_subset id hid)).trans (hxy.same id hid)⟩

private theorem Sound.follow (hx : x.Sound) (hf : Follows x.kept x.heap h) :
    Sound { x with heap := h } := by
  have hle := hf.fresh_le
  exact ⟨hf.apart, fun id hid => by rw [mapping?_congr (hf.same id hid)]; exact hx.mappings id hid,
    fun st hst => (hx.stores st hst).mono hle, fun m hm => (hx.programs m hm).mono hle,
    fun n hn => (hx.nodes n hn).mono hle, fun s hs => (hx.held s hs).mono hle⟩

private theorem Sound.holds {s : Slot} (hx : x.Sound) (hs : x.holds s) :
    x.heap.Shares x.kept s := by
  cases s with
  | scalar c => trivial
  | ref id => exact hx.held _ (List.contains_iff_mem.mp hs)

private theorem forall_concat {α : Type} {P : α → Prop} {as : List α} {a : α}
    (has : ∀ b ∈ as, P b) (ha : P a) : ∀ b ∈ as ++ [a], P b :=
  List.forall_mem_append.mpr ⟨has, List.forall_mem_singleton.mpr ha⟩

private theorem Sound.with_store {st : Store} (hx : x.Sound)
    (hst : x.heap.Shares x.kept (.ref st.top)) :
    Sound { x with stores := x.stores ++ [st] } :=
  ⟨hx.apart, hx.mappings, forall_concat hx.stores hst, hx.programs, hx.nodes, hx.held⟩

private theorem Sound.with_program {m : Mount.Mounted} (hx : x.Sound) (hm : m.Sound x.heap x.kept) :
    Sound { x with programs := x.programs ++ [m] } :=
  ⟨hx.apart, hx.mappings, hx.stores, forall_concat hx.programs hm, hx.nodes, hx.held⟩

private theorem Sound.set_program {m : Mount.Mounted} (hx : x.Sound) (hm : m.Sound x.heap x.kept)
    (i : Nat) :
    Sound { x with programs := x.programs.set i m } := by
  refine ⟨hx.apart, hx.mappings, hx.stores, fun other hother => ?_, hx.nodes, hx.held⟩
  rcases List.mem_or_eq_of_mem_set hother with hother | rfl
  · exact hx.programs other hother
  · exact hm

private theorem Sound.with_node {n : Node} (hx : x.Sound)
    (hn : x.heap.Shares x.kept (.ref n.target)) :
    Sound { x with nodes := x.nodes ++ [n] } :=
  ⟨hx.apart, hx.mappings, hx.stores, hx.programs, forall_concat hx.nodes hn, hx.held⟩

private theorem Sound.with_held {s : Slot} (hx : x.Sound) (hs : x.heap.Shares x.kept s) :
    Sound { x with held := x.held ++ [s] } :=
  ⟨hx.apart, hx.mappings, hx.stores, hx.programs, hx.nodes, forall_concat hx.held hs⟩

private theorem Sound.with_snapshot {es : Entries Slot} (hx : x.Sound)
    (hes : ∀ s ∈ es.map Prod.snd, x.heap.Shares x.kept s) :
    Sound { x with
      heap := (x.heap.alloc (.mapping es)).1, snapshots := x.snapshots ++ [x.heap.fresh] } := by
  have hfollows := hx.apart.alloc (o := .mapping es) hes
  have hold {s : Slot} (hs : x.heap.Shares x.kept s) :
      (x.heap.alloc (.mapping es)).1.Shares (x.kept ++ [x.heap.fresh]) s := hs.keep_alloc _
  refine ⟨hx.apart.keep_alloc hes, fun id hid => ?_, fun st hst => hold (hx.stores st hst),
    fun m hm => ?_, fun n hn => hold (hx.nodes n hn), fun s hs => hold (hx.held s hs)⟩
  · rcases List.mem_append.mp (show id ∈ x.kept ++ [x.heap.fresh] from hid) with hid | hid
    · rw [mapping?_congr (hfollows.same id hid)]
      exact hx.mappings id hid
    · rw [List.mem_singleton.mp hid]
      exact Option.isSome_of_eq_some (mapping?_alloc es)
  · obtain ⟨hstore, hnodes, hslots⟩ := hx.programs m hm
    exact ⟨hold hstore, fun p hp => hold (hnodes p hp), fun s hs => hold (hslots s hs)⟩

private theorem Keeps.of_follows (hinitial : y.initial = x.initial)
    (hsnapshots : y.snapshots = x.snapshots) (hf : Follows x.kept x.heap y.heap) : x.Keeps y :=
  ⟨hinitial, hsnapshots ▸ List.prefix_rfl, hf.same⟩

private theorem Sound.advance (hx : x.Sound) (hf : Follows x.kept x.heap h) :
    x.Keeps { x with heap := h } ∧ Sound { x with heap := h } :=
  ⟨.of_follows rfl rfl hf, hx.follow hf⟩

private theorem Sound.mount [Limits] {program : Mount.Program} {mountpoint rootKey : Value}
    (hx : x.Sound)
    (hy : x.act? (.mount program mountpoint rootKey) = some y) : x.Keeps y ∧ y.Sound := by
  rw [act?] at hy
  split at hy
  · next hheld =>
    have hslots : ∀ s ∈ program.slots, x.heap.Shares x.kept s := fun s hs =>
      hx.holds (List.all_eq_true.mp hheld s hs)
    obtain ⟨hfollows, hmounted⟩ :=
      Mount.follows_mount (.ref x.initial) mountpoint rootKey hx.apart hslots
    split at hy
    · next h m hmount =>
      rw [hmount] at hfollows hmounted
      cases hy
      have hm := hmounted m rfl
      exact ⟨.of_follows rfl rfl hfollows,
        ((hx.follow hfollows).with_store hm.store).with_program hm⟩
    · next h f hmount =>
      rw [hmount] at hfollows
      cases hy
      exact hx.advance hfollows
  · cases hy

private theorem Sound.run [Limits] {i : Nat} {number : Value} {context : Slot} (hx : x.Sound)
    (hy : x.act? (.run i number context) = some y) : x.Keeps y ∧ y.Sound := by
  obtain ⟨m, hm, hy⟩ := Option.bind_eq_some_iff.mp hy
  split at hy
  · next hcontext =>
    obtain ⟨hfollows, hafter⟩ := Mount.Bound.sound_run number hx.apart
      (hx.programs m (List.mem_of_getElem? hm)) (hx.holds hcontext)
    cases hy
    exact ⟨.of_follows rfl rfl hfollows, (hx.follow hfollows).set_program hafter i⟩
  · cases hy

private theorem Sound.snapshot [Limits] {i : Nat} (hx : x.Sound)
    (hy : x.act? (.snapshot i) = some y) :
    x.Keeps y ∧ y.Sound := by
  obtain ⟨st, _, hy⟩ := Option.bind_eq_some_iff.mp hy
  obtain ⟨⟨h, id⟩, htaken, hy⟩ := Option.bind_eq_some_iff.mp hy
  obtain ⟨es, heq, hes⟩ := Store.snapshot_eq hx.apart (toOption_eq_some_iff.mp htaken)
  have hfollows := hx.apart.alloc (o := .mapping es) hes
  cases heq
  cases hy
  exact ⟨⟨rfl, List.prefix_append _ _, hfollows.same⟩, hx.with_snapshot hes⟩

/-- What an action leaves keeps the mapping of the host and all snapshots, and leaves them out of
reach. -/
theorem Sound.act [Limits] {a : Action} (hx : x.Sound) (hy : x.act? a = some y) :
    x.Keeps y ∧ y.Sound := by
  -- Writes go to nodes and held lists, and write what is held or new; none of these is kept.
  cases a with
  | create rootKey =>
    obtain ⟨⟨h, st⟩, hcreate, hy⟩ := Option.bind_eq_some_iff.mp hy
    obtain ⟨hfollows, htop⟩ := Store.follows_create hx.apart (toOption_eq_some_iff.mp hcreate)
    cases hy
    exact ⟨.of_follows rfl rfl hfollows, (hx.follow hfollows).with_store htop⟩
  | mount program mountpoint rootKey => exact hx.mount hy
  | run i number context => exact hx.run hy
  | connect i path =>
    obtain ⟨st, hst, hy⟩ := Option.bind_eq_some_iff.mp hy
    obtain ⟨n, hn, hy⟩ := Option.bind_eq_some_iff.mp hy
    have hshares := Store.shares_connect hx.apart (hx.stores st (List.mem_of_getElem? hst))
      (toOption_eq_some_iff.mp hn)
    cases hy
    exact ⟨.of_follows rfl rfl hx.apart.refl, hx.with_node hshares⟩
  | get i key =>
    obtain ⟨n, _, hy⟩ := Option.bind_eq_some_iff.mp hy
    obtain ⟨found, hfound, hy⟩ := Option.bind_eq_some_iff.mp hy
    obtain ⟨s, rfl, hy⟩ := Option.bind_eq_some_iff.mp hy
    have hshares := Node.shares_get hx.apart (toOption_eq_some_iff.mp hfound)
    cases hy
    exact ⟨.of_follows rfl rfl hx.apart.refl, hx.with_held hshares⟩
  | hold v =>
    have hadd := hx.apart.add v
    cases hy
    exact ⟨.of_follows rfl rfl hadd.follows,
      (hx.follow hadd.follows).with_held (hadd.shares _ List.mem_cons_self)⟩
  | set i key v =>
    obtain ⟨n, hn, hy⟩ := Option.bind_eq_some_iff.mp hy
    obtain ⟨h, hset, hy⟩ := Option.bind_eq_some_iff.mp hy
    have hfollows := Node.follows_set hx.apart (hx.nodes n (List.mem_of_getElem? hn))
      (toOption_eq_some_iff.mp hset)
    cases hy
    exact hx.advance hfollows
  | put i key j =>
    obtain ⟨n, hn, hy⟩ := Option.bind_eq_some_iff.mp hy
    obtain ⟨s, hs, hy⟩ := Option.bind_eq_some_iff.mp hy
    obtain ⟨h, hput, hy⟩ := Option.bind_eq_some_iff.mp hy
    have hfollows := Node.follows_put hx.apart (hx.nodes n (List.mem_of_getElem? hn))
      (hx.held s (List.mem_of_getElem? hs)) (toOption_eq_some_iff.mp hput)
    cases hy
    exact hx.advance hfollows
  | link i key j =>
    obtain ⟨n, hn, hy⟩ := Option.bind_eq_some_iff.mp hy
    obtain ⟨target, htarget, hy⟩ := Option.bind_eq_some_iff.mp hy
    obtain ⟨h, hput, hy⟩ := Option.bind_eq_some_iff.mp hy
    have hfollows := Node.follows_put hx.apart (hx.nodes n (List.mem_of_getElem? hn))
      (hx.nodes target (List.mem_of_getElem? htarget)) (toOption_eq_some_iff.mp hput)
    cases hy
    exact hx.advance hfollows
  | push i key v =>
    obtain ⟨n, _, hy⟩ := Option.bind_eq_some_iff.mp hy
    obtain ⟨h, hpush, hy⟩ := Option.bind_eq_some_iff.mp hy
    have hfollows := Node.follows_push hx.apart (toOption_eq_some_iff.mp hpush)
    cases hy
    exact hx.advance hfollows
  | append i j =>
    obtain ⟨list, hlist, hy⟩ := Option.bind_eq_some_iff.mp hy
    obtain ⟨s, hs, hy⟩ := Option.bind_eq_some_iff.mp hy
    cases list with
    | scalar c => cases hy
    | ref id =>
      obtain ⟨items, hitems, hy⟩ := Option.bind_eq_some_iff.mp hy
      have hitem : Received x.kept x.heap x.heap [s] :=
        ⟨hx.apart.refl, by simpa using hx.held s (List.mem_of_getElem? hs)⟩
      have hfollows := hx.apart.append hitems (hx.held _ (List.mem_of_getElem? hlist)) hitem
      cases hy
      exact hx.advance hfollows
  | snapshot i => exact hx.snapshot hy

private theorem Sound.step [Limits] (hx : x.Sound) (a : Action) :
    x.Keeps (x.step a) ∧ (x.step a).Sound := by
  unfold Session.step
  cases hact : x.act? a with
  | none => exact ⟨.refl x, hx⟩
  | some y => exact hx.act hact

private theorem Sound.runs [Limits] (hx : x.Sound) (actions : List Action) :
    x.Keeps (x.run actions) ∧ (x.run actions).Sound := by
  induction actions generalizing x with
  | nil => exact ⟨.refl x, hx⟩
  | cons a rest ih =>
    obtain ⟨hkeeps, hy⟩ := hx.step a
    obtain ⟨hrest, hfinal⟩ := ih hy
    exact ⟨hkeeps.trans hrest, hfinal⟩

private theorem Sound.not_reaches (hx : x.Sound) {st : Store} (hst : st ∈ x.stores) :
    ∀ id ∈ x.kept, ¬ x.heap.Reaches st.top id :=
  fun _ hid hreach => hx.apart.not_reaches (hx.stores st hst) hreach hid

private theorem Keeps.mapping? (hxy : x.Keeps y) (hx : x.Sound) {id : Nat} (hid : id ∈ x.kept) :
    ∃ es, x.heap.mapping? id = some es ∧ y.heap.mapping? id = some es := by
  obtain ⟨es, hes⟩ := Option.isSome_iff_exists.mp (hx.mappings id hid)
  exact ⟨es, hes, by rw [mapping?_congr (hxy.same id hid), hes]⟩

private theorem placed_entries (es : Entries Value) :
    Received [] Heap.empty (Heap.empty.placeEntries [] es).1
      ((Heap.empty.placeEntries [] es).2.map Prod.snd) :=
  Apart.empty.placeEntries (by simp [Labelled]) es

private theorem start_sound (es : Entries Value) : (start es).Sound := by
  have hplaced := placed_entries es
  refine ⟨hplaced.follows.apart.keep_alloc hplaced.shares, fun id hid => ?_, by simp [start],
    by simp [start], by simp [start], by simp [start]⟩
  rw [List.mem_singleton.mp hid]
  exact Option.isSome_of_eq_some (mapping?_alloc _)

private theorem keys_placeEntries (h : Heap) (labels : List (Nat × Nat)) (es : Entries Value) :
    (h.placeEntries labels es).2.map Prod.fst = es.keys := by
  induction es generalizing h with
  | nil => rfl
  | cons e rest ih =>
    obtain ⟨k, v⟩ := e
    exact congrArg (k :: ·) (ih (h.place labels v).1)

private theorem start_mapping? (es : Entries Value) :
    ∃ bindings, (start es).heap.mapping? (start es).initial = some bindings ∧
      bindings.keys = es.keys :=
  ⟨(Heap.empty.placeEntries [] es).2, mapping?_alloc _, keys_placeEntries _ _ es⟩

/-- Whatever a host does, its own mapping has the bindings that it started with, each snapshot those
that it was taken with, and no store leads to any of them. -/
theorem run_keeps_bindings [Limits] (es : Entries Value) (earlier later : List Action) :
    let first := start es
    let before := first.run earlier
    let after := before.run later
    (∃ bindings, first.heap.mapping? first.initial = some bindings ∧ bindings.keys = es.keys ∧
      after.heap.mapping? first.initial = some bindings) ∧
    (∀ id ∈ before.snapshots, id ∈ after.snapshots ∧ ∃ bindings,
      before.heap.mapping? id = some bindings ∧ after.heap.mapping? id = some bindings) ∧
    ∀ st ∈ after.stores, ∀ id ∈ first.initial :: after.snapshots,
      ¬ after.heap.Reaches st.top id := by
  intro first before after
  have hfirst : first.Sound := start_sound es
  obtain ⟨hearlier, hbefore⟩ := hfirst.runs earlier
  obtain ⟨hlater, hafter⟩ := hbefore.runs later
  have hall := hearlier.trans hlater
  refine ⟨?_, fun id hid => ⟨hlater.snapshots.subset hid, ?_⟩, fun st hst id hid => ?_⟩
  · obtain ⟨bindings, hbindings, hkeys⟩ := start_mapping? es
    refine ⟨bindings, hbindings, hkeys, ?_⟩
    rw [mapping?_congr (hall.same first.initial List.mem_cons_self)]
    exact hbindings
  · exact hlater.mapping? hbefore (List.mem_cons_of_mem _ hid)
  · have hkept : id ∈ after.kept := by
      rw [Session.kept, hall.initial]
      exact hid
    exact hafter.not_reaches hst id hkept

/-- A count that a store writes stays its own. An item that it adds to a list below the top is one
that the host finds in its own list. -/
example :
    let x := (start [(.text "count", .int 0), (.text "items", .list [])]).run
      [.create (.text "root"), .connect 0 .null, .set 0 (.text "count") (.int 5),
        .get 0 (.text "items"), .hold (.text "a"), .append 0 1, .snapshot 0]
    x.heap.mapping? x.initial = some [(.text "count", .scalar (.int 0)), (.text "items", .ref 0)] ∧
    x.snapshots.map x.heap.mapping? =
      [some [(.text "count", .scalar (.int 5)), (.text "items", .ref 0)]] ∧
    x.heap.sequence? 0 = some [.scalar (.text "a")] := by
  decide

end Session

end SceneBook
