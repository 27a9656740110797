import SceneBook.Proofs.Store.Reach

/-!
# Paths in a growing heap

New objects change nothing on the paths between old ones. Two slots meet along a path if it leads to
a mapping from both of them; they then meet along all of its beginnings.
-/

namespace SceneBook.Heap

variable {h h' : Heap} {s t b l last next : Slot} {segment : Value} {path rest : List Value}

theorem next?_ref {id : Nat} {es : Entries Slot} (hes : h.mapping? id = some es)
    (segment : Value) : h.next? (.ref id) segment = segment.scalar?.bind es.find? := by
  rw [next?, mappingId?_bind_ref, hes, Option.bind_some]

private theorem isSome_mappingId?_of_next? (hnext : h.next? s segment = some next) :
    (h.mappingId? s).isSome := by
  unfold next? at hnext
  obtain ⟨es, hes, -⟩ := Option.bind_eq_some_iff.mp hnext
  obtain ⟨id, hid, -⟩ := Option.bind_eq_some_iff.mp hes
  exact Option.isSome_of_eq_some hid

theorem Apart.find? (hh : h.Apart []) {id : Nat} {es : Entries Slot} {k : Scalar}
    (hes : h.mapping? id = some es) (hs : es.find? k = some s) : h.Shares [] s :=
  hh.mapping? hes s (Entries.mem_of_find? hs)

theorem Apart.next? (hh : h.Apart []) (hnext : h.next? s segment = some next) :
    h.Shares [] next := by
  unfold Heap.next? at hnext
  obtain ⟨es, hes, hfind⟩ := Option.bind_eq_some_iff.mp hnext
  obtain ⟨id, -, hmapping⟩ := Option.bind_eq_some_iff.mp hes
  obtain ⟨k, -, hfind⟩ := Option.bind_eq_some_iff.mp hfind
  exact hh.find? hmapping hfind

private theorem walks_nil_iff : h.Walks s [] last ↔ s = last := by
  constructor
  · intro hwalks
    cases hwalks
    rfl
  · intro hsame
    rw [hsame]
    exact .here last

theorem walks_cons_iff (hnext : h.next? s segment = some next) :
    h.Walks s (segment :: rest) last ↔ h.Walks next rest last := by
  constructor
  · intro hwalks
    cases hwalks with
    | step hnext' hrest =>
      rw [hnext] at hnext'
      cases hnext'
      exact hrest
  · exact .step hnext

private theorem not_walks_cons (hnone : h.next? s segment = none) :
    ¬ h.Walks s (segment :: rest) last := by
  intro hwalks
  cases hwalks with
  | step hnext _ =>
    rw [hnone] at hnext
    cases hnext

/-- Steps to the same slot, from where the paths of both heaps lead to the same. -/
theorem walks_cons_congr (hsame : h'.next? t segment = h.next? s segment)
    (hrest : ∀ next, h.next? s segment = some next →
      (h'.Walks next rest last ↔ h.Walks next rest last)) :
    h'.Walks t (segment :: rest) last ↔ h.Walks s (segment :: rest) last := by
  cases hnext : h.next? s segment with
  | none => exact iff_of_false (not_walks_cons (hsame.trans hnext)) (not_walks_cons hnext)
  | some next =>
    rw [walks_cons_iff hnext, walks_cons_iff (hsame.trans hnext)]
    exact hrest next hnext

theorem Furthest.step {k : Nat} (hnext : h.next? s segment = some next)
    (hk : h.Furthest next rest k last) : h.Furthest s (segment :: rest) (k + 1) last where
  le := Nat.succ_le_succ hk.le
  walks := .step hnext hk.walks
  most j hj other hother := by
    cases j with
    | zero => exact Nat.zero_le _
    | succ j =>
      have hrest := (walks_cons_iff hnext).mp hother
      exact Nat.succ_le_succ (hk.most j (Nat.le_of_succ_le_succ hj) other hrest)

theorem Grows.mapping?_eq (hg : h.Grows h') {id : Nat} (hid : h.Shares [] (.ref id)) :
    h'.mapping? id = h.mapping? id :=
  mapping?_congr (hg.same id hid.1)

theorem Grows.mappingId?_eq (hg : h.Grows h') (hs : h.Shares [] s) :
    h'.mappingId? s = h.mappingId? s := by
  cases s with
  | scalar c => rfl
  | ref id => rw [mappingId?, mappingId?, hg.mapping?_eq hs]

private theorem Grows.next?_eq (hg : h.Grows h') (hs : h.Shares [] s) (segment : Value) :
    h'.next? s segment = h.next? s segment := by
  cases s with
  | scalar c => rfl
  | ref id =>
    rw [Heap.next?, Heap.next?, mappingId?_bind_ref, mappingId?_bind_ref, hg.mapping?_eq hs]

theorem Grows.walks_iff (hg : h.Grows h') (hh : h.Apart []) (hs : h.Shares [] s) :
    h'.Walks s path last ↔ h.Walks s path last := by
  induction path generalizing s with
  | nil => rw [walks_nil_iff, walks_nil_iff]
  | cons segment rest ih =>
    exact walks_cons_congr (hg.next?_eq hs segment) fun next hnext => ih (hh.next? hnext)

/-- The path leads to a mapping from both slots. -/
def Meet (h : Heap) (b l : Slot) (path : List Value) : Prop :=
  ∃ b' l', h.Walks b path b' ∧ h.Walks l path l' ∧ (h.mappingId? b').isSome ∧
    (h.mappingId? l').isSome

private theorem meet_nil_iff :
    h.Meet b l [] ↔ (h.mappingId? b).isSome ∧ (h.mappingId? l).isSome := by
  constructor
  · rintro ⟨_, _, ⟨⟩, ⟨⟩, hb, hl⟩
    exact ⟨hb, hl⟩
  · rintro ⟨hb, hl⟩
    exact ⟨b, l, .here b, .here l, hb, hl⟩

theorem meet_nil {b l : Nat} (hb : (h.mapping? b).isSome) (hl : (h.mapping? l).isSome) :
    h.Meet (.ref b) (.ref l) [] := by
  rw [meet_nil_iff, mappingId?_ref_isSome, mappingId?_ref_isSome]
  exact ⟨hb, hl⟩

theorem meet_cons_iff :
    h.Meet b l (segment :: rest) ↔
      ∃ b' l', h.next? b segment = some b' ∧ h.next? l segment = some l' ∧ h.Meet b' l' rest := by
  constructor
  · rintro ⟨b'', l'', _ | ⟨hb, hrest⟩, _ | ⟨hl, hrest'⟩, hmappings⟩
    exact ⟨_, _, hb, hl, b'', l'', hrest, hrest', hmappings⟩
  · rintro ⟨b', l', hb, hl, b'', l'', hrest, hrest', hmappings⟩
    exact ⟨b'', l'', .step hb hrest, .step hl hrest', hmappings⟩

theorem meet_mappings_iff {base later : Nat} {bs ls : Entries Slot} (hb : h.mapping? base = some bs)
    (hl : h.mapping? later = some ls) :
    h.Meet (.ref base) (.ref later) (segment :: rest) ↔
      ∃ k b l, segment = .scalar k ∧ bs.find? k = some b ∧ ls.find? k = some l ∧
        h.Meet b l rest := by
  rw [meet_cons_iff, next?_ref hb, next?_ref hl]
  cases segment with
  | scalar k => simp [Value.scalar?]
  | _ => simp [Value.scalar?]

theorem Meet.mappings (hmeet : h.Meet b l path) :
    (h.mappingId? b).isSome ∧ (h.mappingId? l).isSome := by
  cases path with
  | nil => exact meet_nil_iff.mp hmeet
  | cons segment rest =>
    obtain ⟨b', l', hb, hl, -⟩ := meet_cons_iff.mp hmeet
    exact ⟨isSome_mappingId?_of_next? hb, isSome_mappingId?_of_next? hl⟩

theorem not_meet (hnot : h.mappingId? b = none ∨ h.mappingId? l = none) : ¬ h.Meet b l path := by
  intro hmeet
  obtain ⟨hb, hl⟩ := hmeet.mappings
  rcases hnot with hnone | hnone
  · rw [hnone] at hb
    cases hb
  · rw [hnone] at hl
    cases hl

end SceneBook.Heap
