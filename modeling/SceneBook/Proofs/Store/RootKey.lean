import SceneBook.Proofs.Store.Coherence

/-!
# The root of a store

A store is made with one key at its top, which holds the root mapping. So it stays exactly if all
that is put at the top is put under that key and the last of it is a mapping. As long as it does,
the root can be connected to and copied; a handle on the top can break this.
-/

namespace SceneBook

open Heap

namespace Entries

variable {es : Entries Slot} {k : Scalar} {s s' : Slot} {writes : List Write}

private theorem length_le_put (es : Entries Slot) (k : Scalar) (s : Slot) :
    es.length ≤ (es.put k s).length := by
  induction es with
  | nil => exact Nat.zero_le _
  | cons e rest ih =>
    rw [put]
    split
    · exact Nat.le_refl _
    · exact Nat.succ_le_succ ih

private theorem length_le_written (es : Entries Slot) (writes : List Write) :
    es.length ≤ (es.written writes).length := by
  induction writes generalizing es with
  | nil => exact Nat.le_refl _
  | cons w rest ih => exact Nat.le_trans (length_le_put es w.key w.slot) (ih _)

private theorem written_single_iff :
    written [(k, s)] writes = [(k, s')] ↔
      (∀ w ∈ writes, w.key.same k) ∧ (writes.getLast?.map Write.slot).getD s = s' := by
  induction writes generalizing s with
  | nil => simp [written]
  | cons w rest ih =>
    rw [List.forall_mem_cons, List.getLast?_cons]
    -- The first write is to the one entry, or it adds a second one, which no write takes away.
    cases hsame : w.key.same k with
    | true =>
      have hput : written [(k, s)] (w :: rest) = written [(k, w.slot)] rest := by
        simp only [written, List.foldl_cons, put, Scalar.same_comm k, hsame, if_true]
      rw [hput, ih]
      cases rest.getLast? <;> simp
    | false =>
      have hput : written [(k, s)] (w :: rest) = written [(k, s), (w.key, w.slot)] rest := by
        simp [written, List.foldl_cons, put, Scalar.same_comm k, hsame]
      have hlonger : 2 ≤ (written [(k, s), (w.key, w.slot)] rest).length :=
        length_le_written [(k, s), (w.key, w.slot)] rest
      constructor
      · intro hsingle
        rw [← hput, hsingle] at hlonger
        exact absurd hlonger (by simp)
      · rintro ⟨⟨hnever, -⟩, -⟩
        cases hnever

end Entries

namespace Store

variable {h h' : Heap} {st : Store}

/-- The top of the store has one key, which is its root key, and a mapping under it. -/
def IsRooted (h : Heap) (st : Store) : Prop :=
  ∃ s, h.mapping? st.top = some [(st.rootKey, s)] ∧ (h.mappingId? s).isSome

private theorem isRooted_of_create {initial : Slot} {rootKey : Value}
    (hmade : create h initial rootKey = .ok (h', st)) : st.IsRooted h' := by
  obtain ⟨es, _, hmade⟩ := bind_eq_ok_iff.mp hmade
  obtain ⟨key, _, hmade⟩ := bind_eq_ok_iff.mp hmade
  cases hmade
  have hroot : ((h.alloc (.mapping es)).1.mapping? h.fresh) = some es := mapping?_alloc es
  have hgrows := grows_alloc (h.alloc (.mapping es)).1 (.mapping [(key, .ref h.fresh)])
  have hstill := Option.isSome_of_eq_some (hgrows.rewrites _ _ hroot)
  exact ⟨.ref h.fresh, mapping?_alloc _,
    Option.isSome_of_eq_some (mappingId?_ref_eq_some_iff.mpr ⟨rfl, hstill⟩)⟩

/-- A store with its root in place can be connected to without a path, and copied. -/
theorem IsRooted.reached [Limits] (hroot : st.IsRooted h) : ∃ root es, h.mapping? root = some es ∧
    st.connect h .null = .ok ⟨[.scalar st.rootKey], root⟩ ∧
      st.snapshot h = .ok (h.alloc (.mapping es)) := by
  obtain ⟨s, htop, hs⟩ := hroot
  obtain ⟨root, hroot⟩ := Option.isSome_iff_exists.mp hs
  obtain rfl := eq_ref_of_mappingId? hroot
  obtain ⟨es, hes⟩ := Option.isSome_iff_exists.mp (mappingId?_ref_eq_some_iff.mp hroot).2
  have hfind : Entries.find? [(st.rootKey, Slot.ref root)] st.rootKey = some (.ref root) := by
    simp [Entries.find?]
  refine ⟨root, es, hes, ?_, ?_⟩
  · have hroute : h.Route st.top [.scalar st.rootKey] [⟨st.top, st.rootKey, root⟩] root :=
      .step ⟨_, htop, hfind⟩ (.here (Option.isSome_of_eq_some hes))
    exact connect_eq_ok_iff.mpr ⟨rfl, walk_eq_ok_iff.mpr ⟨Limits.path_pos, _, hroute⟩⟩
  · simp [snapshot, htop, hfind, Heap.entries, hroot, hes, bind, Except.bind, pure, Except.pure]

end Store

namespace Session

variable {x : Session} {st : Store}

/-- What the actions of a run put under keys, one after the other. -/
def written [Limits] (x : Session) : List Action → List Write
  | [] => []
  | a :: rest => x.writes a ++ (x.step a).written rest

theorem rewrites_run [Limits] (x : Session) (actions : List Action) :
    Rewrites (x.written actions) x.heap (x.run actions).heap := by
  induction actions generalizing x with
  | nil => exact .refl x.heap
  | cons a rest ih => exact (rewrites_step x a).trans (ih (x.step a))

private theorem isRooted_run_iff [Limits] (hroot : st.IsRooted x.heap) (actions : List Action) :
    let h' := (x.run actions).heap
    let atTop := writesTo st.top (x.written actions)
    st.IsRooted h' ↔ (∀ w ∈ atTop, w.key.same st.rootKey) ∧
      ∀ w ∈ atTop.getLast?, (h'.mappingId? w.slot).isSome := by
  intro h' atTop
  obtain ⟨s, htop, hs⟩ := hroot
  have hrewrites : Rewrites (x.written actions) x.heap h' := rewrites_run x actions
  have hafter : h'.mapping? st.top = some (Entries.written [(st.rootKey, s)] atTop) :=
    hrewrites st.top _ htop
  have hstill : (h'.mappingId? s).isSome := by
    obtain ⟨root, hroot⟩ := Option.isSome_iff_exists.mp hs
    obtain rfl := Store.eq_ref_of_mappingId? hroot
    have hmapping := hrewrites.changes.mappings root (mappingId?_ref_eq_some_iff.mp hroot).2
    exact Option.isSome_of_eq_some (mappingId?_ref_eq_some_iff.mpr ⟨rfl, hmapping⟩)
  have hlast : (h'.mappingId? ((atTop.getLast?.map Write.slot).getD s)).isSome ↔
      ∀ w ∈ atTop.getLast?, (h'.mappingId? w.slot).isSome := by
    cases atTop.getLast? with
    | none => simpa using hstill
    | some w => simp
  unfold Store.IsRooted
  rw [hafter, ← hlast]
  constructor
  · rintro ⟨s', hsingle, hs'⟩
    obtain ⟨hkeys, rfl⟩ := Entries.written_single_iff.mp (Option.some.inj hsingle)
    exact ⟨hkeys, hs'⟩
  · rintro ⟨hkeys, hs'⟩
    exact ⟨_, congrArg some (Entries.written_single_iff.mpr ⟨hkeys, rfl⟩), hs'⟩

/-- A store stays a tree under its root key as long as all that is put at its top is put under that
key and the last of it is a mapping, and no longer. Meanwhile the root is found without a path, and
a snapshot has its entries. -/
theorem rooted_while_top_spared [Limits] {h : Heap} {initial : Slot} {rootKey : Value}
    (hmade : Store.create h initial rootKey = .ok (x.heap, st)) (actions : List Action) :
    let h' := (x.run actions).heap
    let atTop := writesTo st.top (x.written actions)
    (st.IsRooted h' ↔ (∀ w ∈ atTop, w.key.same st.rootKey) ∧
      ∀ w ∈ atTop.getLast?, (h'.mappingId? w.slot).isSome) ∧
    (st.IsRooted h' → ∃ root es, h'.mapping? root = some es ∧
      st.connect h' .null = .ok ⟨[.scalar st.rootKey], root⟩ ∧
        st.snapshot h' = .ok (h'.alloc (.mapping es))) := by
  intro h' atTop
  exact ⟨isRooted_run_iff (Store.isRooted_of_create hmade) actions, Store.IsRooted.reached⟩

/-- A store that counts, made by a host. -/
def counting : Session := (start [(.text "count", .int 0)]).run [.create (.text "root")]

/-- Through a handle on the top the root is lost and then replaced by another mapping, which a
second handle finds. -/
theorem rooted_while_top_spared_replaced :
    let st : Store := ⟨.text "root", 2⟩
    let actions : List Action :=
      [.connect 0 (.list []), .set 0 (.text "root") (.int 5), .set 0 (.text "root") (.map []),
        .connect 0 .null, .set 1 (.text "count") (.int 1)]
    let h' := (counting.run actions).heap
    Store.create (start [(.text "count", .int 0)]).heap (.ref 0) (.text "root") =
      .ok (counting.heap, st) ∧
    st.IsRooted h' ∧ ∃ root es, h'.mapping? root = some es ∧
      st.connect h' .null = .ok ⟨[.text "root"], root⟩ ∧
        st.snapshot h' = .ok (h'.alloc (.mapping es)) := by
  intro st actions h'
  have hmade : Store.create (start [(.text "count", .int 0)]).heap (.ref 0) (.text "root") =
      .ok (counting.heap, st) := rfl
  obtain ⟨hiff, hreached⟩ := rooted_while_top_spared hmade actions
  have hrooted : st.IsRooted h' := hiff.mpr (by decide)
  exact ⟨hmade, hrooted, hreached hrooted⟩

/-- A handle on the top puts a number in the place of the root, which is then neither found nor
copied. -/
theorem top_handle_uproots :
    let st : Store := ⟨.text "root", 2⟩
    let h := (counting.run [.connect 0 (.list []), .set 0 (.text "root") (.int 5)]).heap
    ¬ st.IsRooted h ∧
    st.connect h .null = .error (.report (.storePath [.text "root"] (.text "root"))) ∧
    st.snapshot h = .error .noParts := by
  intro st h
  have hconnect : st.connect h .null =
      .error (.report (.storePath [.text "root"] (.text "root"))) := rfl
  refine ⟨fun hrooted => ?_, hconnect, rfl⟩
  obtain ⟨root, es, -, hreached, -⟩ := hrooted.reached
  rw [hconnect] at hreached
  cases hreached

end Session

end SceneBook
