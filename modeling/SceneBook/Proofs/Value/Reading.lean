import SceneBook.Proofs.Value.Held
import Mathlib.Data.List.Perm.Subperm

/-!
# Reading held values

The value of a slot is what the slot holds. Reading goes down one object at a time; none of them is
met twice on the way, since what is held further in is smaller, and so the depth is enough.
-/

namespace SceneBook.Heap

variable {h : Heap}

mutual

private theorem Holds.unique : (s : Slot) → (v w : Value) → h.Holds s v → h.Holds s w → v = w
  | .scalar a, .scalar b, w, hv, hw => by
    cases w with
    | scalar c => exact congrArg Value.scalar (hv.symm.trans hw)
    | _ => exact hw.elim
  | .ref _, .list vs, w, ⟨slots, hget, hvs⟩, hw => by
    have hparts := hw.parts hget
    cases w with
    | list ws => rw [HoldsItems.unique slots vs ws hvs hparts]
    | _ => exact hparts.elim
  | .ref _, .tuple vs, w, ⟨slots, hget, hvs⟩, hw => by
    have hparts := hw.parts hget
    cases w with
    | tuple ws => rw [HoldsItems.unique slots vs ws hvs hparts]
    | _ => exact hparts.elim
  | .ref _, .set ks, w, hget, hw => by
    have hparts := hw.parts hget
    cases w with
    | set ks' => exact congrArg Value.set hparts
    | _ => exact hparts.elim
  | .ref _, .map es, w, ⟨fs, hfs, hes⟩, hw => by
    have hparts := hw.parts (mapping?_eq_some_iff.mp hfs)
    cases w with
    | map gs => rw [HoldsEntries.unique fs es gs hes hparts]
    | _ => exact hparts.elim

theorem HoldsItems.unique : (slots : List Slot) → (vs ws : List Value) → HoldsItems h slots vs →
    HoldsItems h slots ws → vs = ws
  | [], [], [], _, _ => rfl
  | s :: slots, v :: vs, w :: ws, ⟨hv, hvs⟩, ⟨hw, hws⟩ => by
    rw [Holds.unique s v w hv hw, HoldsItems.unique slots vs ws hvs hws]

theorem HoldsEntries.unique : (fs : List (Scalar × Slot)) → (es gs : List (Scalar × Value)) →
    HoldsEntries h fs es → HoldsEntries h fs gs → es = gs
  | [], [], [], _, _ => rfl
  | (_, s) :: fs, (_, v) :: es, (_, w) :: gs, ⟨⟨hkey, hv⟩, hes⟩, ⟨⟨hkey', hw⟩, hgs⟩ => by
    rw [← hkey, ← hkey', Holds.unique s v w hv hw, HoldsEntries.unique fs es gs hes hgs]

end

private theorem Holds.eq {s : Slot} {v w : Value} (hv : h.Holds s v) (hw : h.Holds s w) : v = w :=
  hv.unique s v w hw

/-- On the way to something that is held, through the objects `outer` and with this much depth
left, no object has been met twice, and what each of them holds is larger. -/
structure Way (h : Heap) (depth : Nat) (outer : List Nat) (v : Value) : Prop where
  nodup : outer.Nodup
  lt_fresh : ∀ id ∈ outer, id < h.fresh
  within : ∀ id ∈ outer, ∃ w, h.Holds (.ref id) w ∧ sizeOf v < sizeOf w
  depth_gt : h.fresh < depth + outer.length

namespace Way

variable {depth : Nat} {outer : List Nat} {v u : Value} {id : Nat}

private theorem start (h : Heap) (v : Value) : h.Way (h.fresh + 1) [] v :=
  ⟨.nil, by simp, by simp, by simp⟩

theorem depth_pos (hw : h.Way depth outer v) : 0 < depth := by
  have hsub : outer ⊆ List.range h.fresh := fun id hid => List.mem_range.mpr (hw.lt_fresh id hid)
  have hle := (List.subperm_of_subset hw.nodup hsub).length_le
  rw [List.length_range] at hle
  have hgt := hw.depth_gt
  omega

private theorem not_mem (hw : h.Way depth outer v) (hv : h.Holds (.ref id) v) : id ∉ outer := by
  intro hid
  obtain ⟨w, hw', hlt⟩ := hw.within id hid
  rw [hv.eq hw'] at hlt
  exact Nat.lt_irrefl _ hlt

private theorem down (hw : h.Way (depth + 1) outer v) (hv : h.Holds (.ref id) v)
    (hid : id < h.fresh) (hlt : sizeOf u < sizeOf v) : h.Way depth (id :: outer) u where
  nodup := List.nodup_cons.mpr ⟨hw.not_mem hv, hw.nodup⟩
  lt_fresh := List.forall_mem_cons.mpr ⟨hid, hw.lt_fresh⟩
  within := List.forall_mem_cons.mpr ⟨⟨v, hv, hlt⟩, fun other hother => by
    obtain ⟨w, hw', hlt'⟩ := hw.within other hother
    exact ⟨w, hw', Nat.lt_trans hlt hlt'⟩⟩
  depth_gt := by
    have hgt := hw.depth_gt
    rw [List.length_cons]
    omega

end Way

private theorem Keeps.mapM_holds {K : Nat → Value → Prop}
    {f : Slot → StateM Known (Value × List Nat)}
    {slots : List Slot} {vs : List Value} (hvs : HoldsItems h slots vs)
    (hf : ∀ s, ∀ v ∈ vs, h.Holds s v → Keeps K (f s) (· = (v, []))) :
    Keeps K (slots.mapM f) (· = vs.map (·, [])) := by
  induction slots generalizing vs with
  | nil =>
    cases vs with
    | nil => exact .pure rfl
    | cons => exact hvs.elim
  | cons s rest ih =>
    cases vs with
    | nil => exact hvs.elim
    | cons v vs =>
      obtain ⟨hv, hvs⟩ := hvs
      rw [List.mapM_cons]
      refine .bind (hf s v List.mem_cons_self hv) fun r hr => ?_
      refine .bind (ih hvs fun s u hu => hf s u (List.mem_cons_of_mem v hu)) fun rs hrs => ?_
      rw [hr, hrs]
      exact .pure rfl

private theorem HoldsEntries.items {fs : Entries Slot} {es : Entries Value}
    (hes : HoldsEntries h fs es) :
    HoldsItems h (fs.map Prod.snd) (es.map Prod.snd) := by
  rw [holdsItems_iff, List.forall₂_map_left_iff, List.forall₂_map_right_iff]
  exact (holdsEntries_iff.mp hes).imp fun _ _ hfe => hfe.2

private theorem HoldsEntries.zip {fs : Entries Slot} {es : Entries Value}
    (hes : HoldsEntries h fs es) :
    (fs.map Prod.fst).zip (es.map Prod.snd) = es := by
  have hkeys : es.map Prod.fst = fs.map Prod.fst := hes.keys
  rw [← hkeys, List.zip_map']
  exact List.map_id' es

private theorem sizeOf_lt_list {vs : List Value} {u : Value} (hu : u ∈ vs) :
    sizeOf u < sizeOf (Value.list vs) := by
  have hlt := List.sizeOf_lt_of_mem hu
  simp
  omega

private theorem sizeOf_lt_tuple {vs : List Value} {u : Value} (hu : u ∈ vs) :
    sizeOf u < sizeOf (Value.tuple vs) := by
  have hlt := List.sizeOf_lt_of_mem hu
  simp
  omega

private theorem sizeOf_lt_map {es : Entries Value} {u : Value} (hu : u ∈ es.map Prod.snd) :
    sizeOf u < sizeOf (Value.map es) := by
  obtain ⟨⟨k, v⟩, he, rfl⟩ := List.mem_map.mp hu
  have hlt := List.sizeOf_lt_of_mem he
  simp only [Prod.mk.sizeOf_spec, Value.map.sizeOf_spec] at hlt ⊢
  omega

private theorem unfold_of_holds {depth : Nat} {outer : List Nat} {s : Slot} {v : Value}
    (hv : h.Holds s v) (hw : h.Way depth outer v) :
    Keeps (fun id w => h.Holds (.ref id) w) (h.unfold depth outer s) (· = (v, [])) := by
  induction depth generalizing outer s v with
  | zero => exact absurd hw.depth_pos (Nat.lt_irrefl 0)
  | succ depth ih =>
    cases s with
    | scalar c =>
      cases v with
      | scalar d => exact .pure (congrArg (fun c => (Value.scalar c, [])) hv)
      | _ => exact hv.elim
    | ref id =>
      have hid : id < h.fresh := hv.lt_fresh
      rw [Heap.unfold]
      split
      · next hmem => exact absurd (List.contains_iff_mem.mp hmem) (hw.not_mem hv)
      refine .bind .get fun known hknown => ?_
      split
      · next w hw' => exact .pure (congrArg (·, []) ((hknown id w hw').eq hv))
      extract_lets items finish
      have hfinish : Keeps (fun id w => h.Holds (.ref id) w) (finish (v, [])) (· = (v, [])) :=
        .bind (.keep hv) fun _ _ => .pure rfl
      have hitems {slots : List Slot} {vs : List Value} (hvs : HoldsItems h slots vs)
          (hlt : ∀ u ∈ vs, sizeOf u < sizeOf v) :
          Keeps (fun id w => h.Holds (.ref id) w) (items slots) (· = (vs, [])) := by
        refine .bind (.mapM_holds hvs fun s u hu hsu => ih hsu (hw.down hv hid (hlt u hu)))
          fun parts hparts => ?_
        rw [hparts]
        exact .pure (by simp [Function.comp_def])
      cases v with
      | list vs =>
        obtain ⟨slots, hget, hvs⟩ := hv
        rw [hget]
        refine .bind (hitems hvs fun u => sizeOf_lt_list) fun r hr => ?_
        rw [hr]
        exact hfinish
      | tuple vs =>
        obtain ⟨slots, hget, hvs⟩ := hv
        rw [hget]
        refine .bind (hitems hvs fun u => sizeOf_lt_tuple) fun r hr => ?_
        rw [hr]
        exact hfinish
      | set ks =>
        have hget : h.get? id = some (.set ks) := hv
        rw [hget]
        exact hfinish
      | map es =>
        obtain ⟨fs, hfs, hes⟩ := hv
        rw [mapping?_eq_some_iff.mp hfs]
        refine .bind (hitems hes.items fun u => sizeOf_lt_map) fun r hr => ?_
        rw [hr]
        dsimp only
        rw [hes.zip]
        exact hfinish
      | _ => exact hv.elim

theorem value_of_holds {s : Slot} {v : Value} (hv : h.Holds s v) : h.value s = v :=
  congrArg Prod.fst (unfold_of_holds hv (.start h v) _ (Known.all_replicate _ _)).1

end SceneBook.Heap
