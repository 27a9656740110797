import SceneBook.Proofs.Value.Likeness

/-!
# Values in heaps alike

A value that is put into two heaps that are alike becomes objects that are alike, whatever knots it
has; and slots that are alike have parts and entries that are alike, or none for the same reason.
-/

namespace SceneBook.Heap

variable {R : Nat → Nat → Prop} {h g h₁ g₁ : Heap}

abbrev SameLabels (R : Nat → Nat → Prop) : List (Nat × Nat) → List (Nat × Nat) → Prop :=
  List.Forall₂ fun p q => p.1 = q.1 ∧ R p.2 q.2

private theorem SameLabels.mono {R' : Nat → Nat → Prop} (hle : ∀ a b, R a b → R' a b)
    {ls ms : List (Nat × Nat)} (hl : SameLabels R ls ms) : SameLabels R' ls ms :=
  hl.imp fun _ _ hpq => ⟨hpq.1, hle _ _ hpq.2⟩

private theorem SameLabels.cons {ls ms : List (Nat × Nat)} (hl : SameLabels R ls ms) (l : Nat)
    {a b : Nat} (hab : R a b) : SameLabels R ((l, a) :: ls) ((l, b) :: ms) :=
  List.Forall₂.cons ⟨rfl, hab⟩ hl

private theorem SameLabels.lookup {ls ms : List (Nat × Nat)} (hl : SameLabels R ls ms) (l : Nat) :
    Slot.Like R (((ls.lookup l).map Slot.ref).getD (.scalar .null))
      (((ms.lookup l).map Slot.ref).getD (.scalar .null)) := by
  induction hl with
  | nil => exact rfl
  | @cons p q _ _ hpq _ ih =>
    rw [List.lookup_cons, List.lookup_cons, hpq.1]
    split
    · exact hpq.2
    · exact ih

/-- What a value becomes in two heaps: slots that are alike, and else only new objects. -/
def Twins (R : Nat → Nat → Prop) (h g : Heap) (made made' : Heap × Slot) : Prop :=
  ∃ R', Parallel R h g R' made.1 made'.1 ∧ Slot.Like R' made.2 made'.2

theorem Parallel.twins {R' : Nat → Nat → Prop} (hp : Parallel R h g R' h₁ g₁) {o p : Object}
    (hop : Object.Like R' o p) :
    Twins R h g ((h₁.alloc o).1, .ref (h₁.alloc o).2) ((g₁.alloc p).1, .ref (g₁.alloc p).2) := by
  obtain ⟨R'', hnew, hids⟩ := hp.alike.alloc hop
  exact ⟨R'', hp.trans hnew, hids⟩

private theorem Alike.tie (ha : Alike R h g) {hole o p : Object} (hhole : Object.Like R hole hole)
    (hparts : ∀ R', Parallel R h g R' (h.alloc hole).1 (g.alloc hole).1 → R' h.fresh g.fresh →
      ∃ R'', Parallel R' (h.alloc hole).1 (g.alloc hole).1 R'' h₁ g₁ ∧ Object.Like R'' o p) :
    Twins R h g (h₁.write h.fresh o, .ref h.fresh) (g₁.write g.fresh p, .ref g.fresh) := by
  obtain ⟨R', hnew, hids⟩ := ha.alloc hhole
  obtain ⟨R'', hplaced, hop⟩ := hparts R' hnew hids
  have hids' := hplaced.keeps _ _ hids
  have hnone (x : Heap) (old : Object) : x.get? x.fresh ≠ some old := fun hold =>
    Nat.lt_irrefl _ (lt_fresh_of_get? hold)
  have hall := (hnew.trans hplaced).write hids' hop
    (fun old hold => absurd hold (hnone h old)) (fun old hold => absurd hold (hnone g old))
  exact ⟨R'', hall, hids'⟩

mutual

private theorem Alike.place {R : Nat → Nat → Prop} {h g : Heap} (ha : Alike R h g)
    {ls ms : List (Nat × Nat)} (hl : SameLabels R ls ms) :
    (v : Value) → Twins R h g (h.place ls v) (g.place ms v)
  | .scalar s => ⟨R, .refl ha, rfl⟩
  | .list items => by
    obtain ⟨R', hp, hslots⟩ := ha.placeItems hl items
    exact hp.twins (.sequence hslots)
  | .tuple items => by
    obtain ⟨R', hp, hslots⟩ := ha.placeItems hl items
    exact hp.twins (.tuple hslots)
  | .set ks => (Parallel.refl ha).twins (.set ks)
  | .map es => by
    obtain ⟨R', hp, hslots⟩ := ha.placeEntries hl es
    exact hp.twins (.mapping hslots)
  | .knot l (.list items) => by
    refine ha.tie (.sequence .nil) fun R' hnew hids => ?_
    obtain ⟨R'', hp, hslots⟩ :=
      hnew.alike.placeItems ((hl.mono hnew.keeps).cons l hids) items
    exact ⟨R'', hp, .sequence hslots⟩
  | .knot l (.tuple items) => by
    refine ha.tie (.tuple .nil) fun R' hnew hids => ?_
    obtain ⟨R'', hp, hslots⟩ :=
      hnew.alike.placeItems ((hl.mono hnew.keeps).cons l hids) items
    exact ⟨R'', hp, .tuple hslots⟩
  | .knot l (.map es) => by
    refine ha.tie (.mapping .nil) fun R' hnew hids => ?_
    obtain ⟨R'', hp, hslots⟩ :=
      hnew.alike.placeEntries ((hl.mono hnew.keeps).cons l hids) es
    exact ⟨R'', hp, .mapping hslots⟩
  -- Only a collection can lead back to itself, so that any other body is placed without its label.
  | .knot _ (.scalar s) => ha.place hl (.scalar s)
  | .knot _ (.set ks) => ha.place hl (.set ks)
  | .knot _ (.knot l b) => ha.place hl (.knot l b)
  | .knot _ (.back l m) => ha.place hl (.back l m)
  | .back l _ => ⟨R, .refl ha, hl.lookup l⟩

theorem Alike.placeItems {R : Nat → Nat → Prop} {h g : Heap} (ha : Alike R h g)
    {ls ms : List (Nat × Nat)} (hl : SameLabels R ls ms) :
    (vs : List Value) → ∃ R', Parallel R h g R' (h.placeItems ls vs).1 (g.placeItems ms vs).1 ∧
      List.Forall₂ (Slot.Like R') (h.placeItems ls vs).2 (g.placeItems ms vs).2
  | [] => ⟨R, .refl ha, .nil⟩
  | v :: rest => by
    obtain ⟨R', hfirst, hslot⟩ := ha.place hl v
    obtain ⟨R'', hrest, hslots⟩ := hfirst.alike.placeItems (hl.mono hfirst.keeps) rest
    exact ⟨R'', hfirst.trans hrest, .cons (hslot.mono hrest.keeps) hslots⟩

theorem Alike.placeEntries {R : Nat → Nat → Prop} {h g : Heap} (ha : Alike R h g)
    {ls ms : List (Nat × Nat)} (hl : SameLabels R ls ms) :
    (es : List (Scalar × Value)) →
      ∃ R', Parallel R h g R' (h.placeEntries ls es).1 (g.placeEntries ms es).1 ∧
        Entries.Like R' (h.placeEntries ls es).2 (g.placeEntries ms es).2
  | [] => ⟨R, .refl ha, .nil⟩
  | (k, v) :: rest => by
    obtain ⟨R', hfirst, hslot⟩ := ha.place hl v
    obtain ⟨R'', hrest, hslots⟩ := hfirst.alike.placeEntries (hl.mono hfirst.keeps) rest
    exact ⟨R'', hfirst.trans hrest, .cons ⟨rfl, hslot.mono hrest.keeps⟩ hslots⟩

end

theorem Alike.add (ha : Alike R h g) (v : Value) : Twins R h g (h.add v) (g.add v) :=
  ha.place .nil v

private theorem like_scalars {α : Type} (f : α → Scalar) (as : List α) :
    List.Forall₂ (Slot.Like R) (as.map fun a => .scalar (f a)) (as.map fun a => .scalar (f a)) := by
  induction as with
  | nil => exact .nil
  | cons a rest ih => exact .cons rfl ih

private theorem like_keys {es fs : Entries Slot} (hes : Entries.Like R es fs) :
    List.Forall₂ (Slot.Like R) (es.map fun e => .scalar e.1) (fs.map fun e => .scalar e.1) := by
  induction hes with
  | nil => exact .nil
  | cons hef _ ih => exact .cons hef.1 ih

private theorem Alike.parts (ha : Alike R h g) {s t : Slot} (hst : Slot.Like R s t) :
    Agree (List.Forall₂ (Slot.Like R)) (h.parts s) (g.parts t) := by
  cases s <;> cases t
  case scalar.scalar a b =>
    cases hst
    cases a
    case text u => exact .ok (like_scalars _ u)
    case bytes bs => exact .ok (like_scalars _ bs)
    all_goals exact .error _
  case ref.ref a b =>
    obtain ⟨o, p, ho, hp, hop⟩ := ha.objects a b hst
    simp only [Heap.parts, ho, hp]
    cases hop with
    | mapping hes => exact .ok (like_keys hes)
    | sequence hitems => exact .ok hitems
    | tuple hitems => exact .ok hitems
    | set ks => exact .ok (like_scalars _ ks)
  all_goals exact hst.elim

private theorem key?_eq_of_like {s t : Slot} (hst : Slot.Like R s t) : s.key? = t.key? := by
  cases s <;> cases t
  case scalar.scalar => exact congrArg Except.ok hst
  case ref.ref => rfl
  all_goals exact hst.elim

private theorem Alike.addPairs (ha : Alike R h g) {es fs : Entries Slot}
    (hes : Entries.Like R es fs) {ss ts : List Slot} (hst : List.Forall₂ (Slot.Like R) ss ts) :
    Agree (Entries.Like R) (Entries.addPairs h.parts Slot.key? es ss)
      (Entries.addPairs g.parts Slot.key? fs ts) := by
  induction hst generalizing es fs with
  | nil => exact .ok hes
  | cons hpair _ ih =>
    refine (ha.parts hpair).bind fun ps qs hparts => ?_
    -- A pair has exactly two parts, the first of them a key.
    match ps, qs, hparts with
    | [], _, .nil => exact .error _
    | [_], _, .cons _ .nil => exact .error _
    | [k, v], [k', v'], .cons hk (.cons hv .nil) =>
      simp only [key?_eq_of_like hk]
      exact (Agree.of_eq (fun _ => rfl) k'.key?).bind fun _ _ hkeys => hkeys ▸ ih (hes.put _ hv)
    | _ :: _ :: _ :: _, _, .cons _ (.cons _ (.cons _ _)) => exact .error _

theorem Alike.entries (ha : Alike R h g) {s t : Slot} (hst : Slot.Like R s t) :
    Agree (Entries.Like R) (h.entries s) (g.entries t) := by
  have hentries := ha.entries? hst
  unfold Heap.entries
  generalize (h.mappingId? s).bind h.mapping? = x at hentries
  generalize (g.mappingId? t).bind g.mapping? = y at hentries
  cases hentries with
  | some hes => exact .ok hes
  | none => exact (ha.parts hst).bind fun _ _ hparts => ha.addPairs .nil hparts

theorem Alike.isTruthy_eq (ha : Alike R h g) {s t : Slot} (hst : Slot.Like R s t) :
    h.isTruthy s = g.isTruthy t := by
  cases s <;> cases t
  case scalar.scalar => exact congrArg Scalar.isTruthy hst
  case ref.ref a b =>
    obtain ⟨o, p, ho, hp, hop⟩ := ha.objects a b hst
    simp only [Heap.isTruthy, ho, hp]
    cases hop with
    | mapping hes => cases hes <;> rfl
    | sequence hitems => cases hitems <;> rfl
    | tuple hitems => cases hitems <;> rfl
    | set ks => rfl
  all_goals exact hst.elim

end SceneBook.Heap
