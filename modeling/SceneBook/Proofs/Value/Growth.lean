import SceneBook.Proofs.Value.Sharing

/-!
# Growing heaps

Making new objects leaves those that are there as they are, however a value is put together and
whatever knots it has.
-/

namespace SceneBook.Heap

/-- A later heap that has all objects of an earlier one as they were. -/
structure Grows (h h' : Heap) : Prop where
  fresh_le : h.fresh ≤ h'.fresh
  same : ∀ id < h.fresh, h'.get? id = h.get? id

variable {h h' h₁ h₂ : Heap}

theorem lt_fresh_of_get? {id : Nat} {o : Object} (ho : h.get? id = some o) : id < h.fresh :=
  (Array.getElem?_eq_some_iff.mp ho).1

theorem Grows.refl (h : Heap) : h.Grows h := ⟨Nat.le_refl _, fun _ _ => rfl⟩

theorem Grows.trans (h₁₂ : h.Grows h₁) (h₂₃ : h₁.Grows h₂) : h.Grows h₂ :=
  ⟨Nat.le_trans h₁₂.fresh_le h₂₃.fresh_le, fun id hid =>
    (h₂₃.same id (Nat.lt_of_lt_of_le hid h₁₂.fresh_le)).trans (h₁₂.same id hid)⟩

theorem Grows.get? {id : Nat} {o : Object} (hg : h.Grows h') (ho : h.get? id = some o) :
    h'.get? id = some o :=
  (hg.same id (lt_fresh_of_get? ho)).trans ho

theorem grows_alloc (h : Heap) (o : Object) : h.Grows (h.alloc o).1 :=
  ⟨by simp, fun _ hid => get?_alloc_of_lt o hid⟩

theorem Grows.write {id : Nat} (hg : h.Grows h') (hid : h.fresh ≤ id) (o : Object) :
    h.Grows (h'.write id o) :=
  ⟨by simpa using hg.fresh_le, fun other hother =>
    (get?_write_of_ne o (by omega)).trans (hg.same other hother)⟩

mutual

theorem grows_place (h : Heap) (labels : List (Nat × Nat)) :
    (v : Value) → h.Grows (h.place labels v).1
  | .scalar _ => .refl h
  | .list items => (grows_placeItems h labels items).trans (grows_alloc _ _)
  | .tuple items => (grows_placeItems h labels items).trans (grows_alloc _ _)
  | .set _ => grows_alloc h _
  | .map es => (grows_placeEntries h labels es).trans (grows_alloc _ _)
  | .knot _ (.list items) =>
    ((grows_alloc h _).trans (grows_placeItems _ _ items)).write (Nat.le_refl _) _
  | .knot _ (.tuple items) =>
    ((grows_alloc h _).trans (grows_placeItems _ _ items)).write (Nat.le_refl _) _
  | .knot _ (.map es) =>
    ((grows_alloc h _).trans (grows_placeEntries _ _ es)).write (Nat.le_refl _) _
  | .knot _ (.scalar s) => grows_place h labels (.scalar s)
  | .knot _ (.set ks) => grows_place h labels (.set ks)
  | .knot _ (.knot l b) => grows_place h labels (.knot l b)
  | .knot _ (.back l m) => grows_place h labels (.back l m)
  | .back _ _ => .refl h

theorem grows_placeItems (h : Heap) (labels : List (Nat × Nat)) :
    (vs : List Value) → h.Grows (h.placeItems labels vs).1
  | [] => .refl h
  | v :: rest => (grows_place h labels v).trans (grows_placeItems _ labels rest)

theorem grows_placeEntries (h : Heap) (labels : List (Nat × Nat)) :
    (es : List (Scalar × Value)) → h.Grows (h.placeEntries labels es).1
  | [] => .refl h
  | (_, v) :: rest => (grows_place h labels v).trans (grows_placeEntries _ labels rest)

end

theorem grows_add (h : Heap) (v : Value) : h.Grows (h.add v).1 := grows_place h [] v

end SceneBook.Heap
