import SceneBook.Workbook.Extraction
import Mathlib.Data.List.Basic
import Mathlib.Data.List.Sort

/-!
# Grouping by scene

The groups of a list of items come in strictly increasing order of their indices, one for each
index that occurs. Looking an index up gives the code of exactly the items that have it.
-/

namespace SceneBook.Item

/-- The code of the items of one scene, in the order of the list. -/
def codeAt (separator : Text) (index : Int) (items : List Item) : Text :=
  Text.join separator ((items.filter fun i => i.sceneIndex = index).map Item.code)

/-- The scene indices of the items, each once and in increasing order. -/
def indices (items : List Item) : List Int := sortIndices (items.map sceneIndex)

private theorem mem_insertIndex (i k : Int) (l : List Int) :
    k ∈ insertIndex i l ↔ k = i ∨ k ∈ l := by
  induction l with
  | nil => simp [insertIndex]
  | cons j rest ih =>
    by_cases hlt : i < j
    · simp [insertIndex, hlt]
    · by_cases heq : i = j
      · subst j
        simp [insertIndex]
      · simp only [insertIndex, hlt, heq, if_false, List.mem_cons, ih]
        tauto

private theorem insertIndex_pairwise (i : Int) {l : List Int} (h : l.Pairwise (· < ·)) :
    (insertIndex i l).Pairwise (· < ·) := by
  induction l with
  | nil => simp [insertIndex]
  | cons j rest ih =>
    have hj := (List.pairwise_cons.mp h).1
    have hrest := (List.pairwise_cons.mp h).2
    by_cases hlt : i < j
    · simp only [insertIndex, hlt, if_true]
      refine List.pairwise_cons.mpr ⟨?_, h⟩
      intro k hk
      rcases List.mem_cons.mp hk with rfl | hk
      · exact hlt
      · exact Int.lt_trans hlt (hj k hk)
    · by_cases heq : i = j
      · simpa [insertIndex, hlt, heq] using h
      · simp only [insertIndex, hlt, heq, if_false]
        refine List.pairwise_cons.mpr ⟨?_, ih hrest⟩
        intro k hk
        rcases (mem_insertIndex i k rest).mp hk with rfl | hk
        · omega
        · exact hj k hk

private theorem mem_sortIndices (k : Int) (is : List Int) : k ∈ sortIndices is ↔ k ∈ is := by
  induction is with
  | nil => exact Iff.rfl
  | cons i rest ih =>
    change k ∈ insertIndex i (sortIndices rest) ↔ _
    rw [mem_insertIndex, ih, List.mem_cons]

private theorem sortIndices_pairwise (is : List Int) : (sortIndices is).Pairwise (· < ·) := by
  induction is with
  | nil => exact List.Pairwise.nil
  | cons i rest ih => exact insertIndex_pairwise i ih

theorem sortIndices_eq_iff {is js : List Int} :
    sortIndices is = sortIndices js ↔ ∀ k, k ∈ is ↔ k ∈ js := by
  constructor
  · intro h k
    rw [← mem_sortIndices k is, h, mem_sortIndices]
  · intro h
    apply (sortIndices_pairwise is).eq_of_mem_iff (sortIndices_pairwise js)
    intro k
    rw [mem_sortIndices, mem_sortIndices, h]

theorem mem_indices (k : Int) (items : List Item) :
    k ∈ indices items ↔ ∃ x ∈ items, x.sceneIndex = k := by
  rw [indices, mem_sortIndices, List.mem_map]

theorem indices_pairwise (items : List Item) : (indices items).Pairwise (· < ·) :=
  sortIndices_pairwise _

theorem lookup_cons_eq {α : Type} (j : Int) (a : α) (rest : List (Int × α)) (k : Int) :
    List.lookup k ((j, a) :: rest) = if k = j then some a else rest.lookup k := by
  rw [List.lookup_cons]
  by_cases hk : k = j
  · simp [hk]
  · have hne : (k == j) = false := beq_eq_false_iff_ne.mpr hk
    simp [hk, hne]

section Gathering

variable {gathered : List (Int × List Text)}

private theorem lookup_gather (i : Item) (k : Int) :
    ((gather gathered i).lookup k).getD [] =
      (gathered.lookup k).getD [] ++ if i.sceneIndex = k then [i.code] else [] := by
  induction gathered with
  | nil =>
    rw [gather, lookup_cons_eq]
    by_cases hk : k = i.sceneIndex <;> simp [hk, eq_comm]
  | cons g rest ih =>
    obtain ⟨index, codes⟩ := g
    rw [gather]
    by_cases hindex : index = i.sceneIndex
    · subst hindex
      rw [if_pos rfl, lookup_cons_eq, lookup_cons_eq]
      by_cases hk : k = i.sceneIndex
      · simp [hk]
      · simp [hk, Ne.symm hk]
    · rw [if_neg hindex, lookup_cons_eq, lookup_cons_eq]
      by_cases hk : k = index
      · subst hk
        simp [Ne.symm hindex]
      · simp [hk, ih]

private theorem mem_keys_gather (i : Item) (k : Int) :
    k ∈ (gather gathered i).map Prod.fst ↔ k ∈ gathered.map Prod.fst ∨ i.sceneIndex = k := by
  induction gathered with
  | nil => simp [gather, eq_comm]
  | cons g rest ih =>
    obtain ⟨index, codes⟩ := g
    rw [gather]
    by_cases hindex : index = i.sceneIndex
    · subst hindex
      rw [if_pos rfl, List.map_cons, List.map_cons, List.mem_cons]
      tauto
    · rw [if_neg hindex, List.map_cons, List.mem_cons, ih, List.map_cons, List.mem_cons, or_assoc]

private theorem lookup_gathered (items : List Item) (k : Int) :
    ((items.foldl gather gathered).lookup k).getD [] = (gathered.lookup k).getD [] ++
      (items.filter fun i => i.sceneIndex = k).map code := by
  induction items generalizing gathered with
  | nil => simp
  | cons i rest ih =>
    rw [List.foldl_cons, ih, lookup_gather, List.append_assoc, List.filter_cons]
    split <;> simp [*]

private theorem mem_keys_gathered (items : List Item) (k : Int) :
    k ∈ (items.foldl gather gathered).map Prod.fst ↔
      k ∈ gathered.map Prod.fst ∨ k ∈ items.map sceneIndex := by
  induction items generalizing gathered with
  | nil => simp
  | cons i rest ih =>
    rw [List.foldl_cons, ih, mem_keys_gather, List.map_cons, List.mem_cons, or_assoc, eq_comm]

end Gathering

theorem groupByScene_eq (separator : Text) (items : List Item) :
    groupByScene separator items = (indices items).map fun i => (i, codeAt separator i items) := by
  have hkeys : sortIndices ((items.foldl gather []).map Prod.fst) = indices items := by
    rw [indices, sortIndices_eq_iff]
    intro k
    rw [mem_keys_gathered]
    simp
  simp only [groupByScene, hkeys, lookup_gathered, codeAt, List.lookup_nil, Option.getD_none,
    List.nil_append]

theorem groupByScene_eq_nil_iff (sep : Text) (items : List Item) :
    groupByScene sep items = [] ↔ items = [] := by
  rw [groupByScene_eq]
  constructor
  · intro h
    have hnil : indices items = [] := List.map_eq_nil_iff.mp h
    refine List.eq_nil_iff_forall_not_mem.mpr fun x hx => ?_
    have := (mem_indices x.sceneIndex items).mpr ⟨x, hx, rfl⟩
    simp [hnil] at this
  · rintro rfl
    rfl

/-- The codes of an index that no item has are none, and so is their joined text. -/
theorem filter_eq_nil_iff_not_mem {items : List Item} {k : Int} :
    items.filter (fun x => x.sceneIndex = k) = [] ↔ k ∉ indices items := by
  simp [List.filter_eq_nil_iff, mem_indices]

theorem codeAt_of_not_mem (sep : Text) {k : Int} {items : List Item} (h : k ∉ indices items) :
    codeAt sep k items = [] := by
  rw [codeAt, filter_eq_nil_iff_not_mem.mpr h]
  rfl

private theorem lookup_map_indices {α : Type} (f : Int → α) (k : Int) (l : List Int) :
    (l.map fun i => (i, f i)).lookup k = if k ∈ l then some (f k) else none := by
  induction l with
  | nil => simp
  | cons i rest ih =>
    by_cases h : k = i
    · subst i
      simp
    · have hne : (k == i) = false := beq_eq_false_iff_ne.mpr h
      simp [List.lookup_cons, hne, h, ih]

theorem lookup_groupByScene (sep : Text) (k : Int) (items : List Item) :
    (groupByScene sep items).lookup k =
      if k ∈ indices items then some (codeAt sep k items) else none := by
  rw [groupByScene_eq]
  exact lookup_map_indices (fun i => codeAt sep i items) k (indices items)

/-- What an index has in a grouping, or nothing, is the code of its items either way. -/
theorem getD_lookup_groupByScene (sep : Text) (k : Int) (items : List Item) :
    ((groupByScene sep items).lookup k).getD [] = codeAt sep k items := by
  rw [lookup_groupByScene]
  by_cases h : k ∈ indices items
  · simp [h]
  · simp [h, codeAt_of_not_mem sep h]

theorem indices_eq_iff {xs ys : List Item} :
    indices xs = indices ys ↔
      ∀ k, (∃ x ∈ xs, x.sceneIndex = k) ↔ ∃ y ∈ ys, y.sceneIndex = k := by
  simp only [indices, sortIndices_eq_iff, List.mem_map]

theorem groupByScene_eq_iff (sep : Text) {xs ys : List Item} :
    groupByScene sep xs = groupByScene sep ys ↔
      indices xs = indices ys ∧ ∀ k, codeAt sep k xs = codeAt sep k ys := by
  constructor
  · intro h
    constructor
    · simpa [groupByScene_eq, List.map_map, Function.comp_def] using
        congrArg (List.map Prod.fst) h
    · intro k
      rw [← getD_lookup_groupByScene, h, getD_lookup_groupByScene]
  · rintro ⟨hindices, hcodes⟩
    simp only [groupByScene_eq, hindices, hcodes]

private theorem indices_append_of_lt {i : Int} {xs ys : List Item} (hne : xs ≠ [])
    (hxs : ∀ x ∈ xs, x.sceneIndex = i) (hys : ∀ y ∈ ys, i < y.sceneIndex) :
    indices (xs ++ ys) = i :: indices ys := by
  induction xs with
  | nil => exact absurd rfl hne
  | cons x rest ih =>
    have hx : x.sceneIndex = i := hxs x (by simp)
    change insertIndex x.sceneIndex (indices (rest ++ ys)) = _
    rw [hx]
    by_cases hrest : rest = []
    · subst rest
      have hlt : ∀ k ∈ indices ys, i < k := by
        intro k hk
        obtain ⟨y, hy, rfl⟩ := (mem_indices k ys).mp hk
        exact hys y hy
      cases hi : indices ys with
      | nil => simp [insertIndex, hi]
      | cons k ks => simp [insertIndex, hi, hlt k (by simp [hi])]
    · rw [ih hrest fun y hy => hxs y (List.mem_cons_of_mem _ hy)]
      simp [insertIndex]

/-- Items of one scene ahead of items of later scenes are the first group. -/
theorem groupByScene_append_of_lt (sep : Text) {i : Int} {xs ys : List Item} (hne : xs ≠ [])
    (hxs : ∀ x ∈ xs, x.sceneIndex = i) (hys : ∀ y ∈ ys, i < y.sceneIndex) :
    groupByScene sep (xs ++ ys) = (i, Text.join sep (xs.map Item.code)) :: groupByScene sep ys := by
  have hhere : codeAt sep i (xs ++ ys) = Text.join sep (xs.map Item.code) := by
    have hx : xs.filter (fun x => x.sceneIndex = i) = xs :=
      List.filter_eq_self.mpr fun x hx => by simp [hxs x hx]
    have hy : ys.filter (fun x => x.sceneIndex = i) = [] :=
      List.filter_eq_nil_iff.mpr fun y hy => by
        have := hys y hy
        simp only [decide_eq_true_eq]
        omega
    rw [codeAt, List.filter_append, hx, hy, List.append_nil]
  have hlater (k : Int) (hk : k ∈ indices ys) : codeAt sep k (xs ++ ys) = codeAt sep k ys := by
    obtain ⟨y, hy, rfl⟩ := (mem_indices k ys).mp hk
    have hx : xs.filter (fun x => x.sceneIndex = y.sceneIndex) = [] :=
      List.filter_eq_nil_iff.mpr fun x hx => by
        have := hys y hy
        have := hxs x hx
        simp only [decide_eq_true_eq]
        omega
    rw [codeAt, List.filter_append, hx, List.nil_append]
    rfl
  rw [groupByScene_eq, groupByScene_eq, indices_append_of_lt hne hxs hys, List.map_cons, hhere]
  congr 1
  exact List.map_congr_left fun k hk => by rw [hlater k hk]

theorem lt_span_iff (n : Nat) (items : List Item) :
    n < span items ↔ ∃ x ∈ items, (n : Int) ≤ x.sceneIndex := by
  induction items with
  | nil => simp [span]
  | cons x rest ih =>
    change n < max (x.sceneIndex + 1).toNat (span rest) ↔ _
    have hx : n < (x.sceneIndex + 1).toNat ↔ (n : Int) ≤ x.sceneIndex := by omega
    have hm : n < max (x.sceneIndex + 1).toNat (span rest) ↔
        n < (x.sceneIndex + 1).toNat ∨ n < span rest := by omega
    rw [hm, hx, ih]
    simp only [List.mem_cons, exists_eq_or_imp]

theorem span_eq_of_indices_eq {xs ys : List Item} (h : indices xs = indices ys) :
    span xs = span ys := by
  have hspan (items : List Item) (n : Nat) :
      n < span items ↔ ∃ k ∈ indices items, (n : Int) ≤ k := by
    simp only [lt_span_iff, mem_indices, exists_exists_and_eq_and]
  apply eq_of_forall_lt_iff
  intro n
  rw [hspan, hspan, h]

private theorem filter_index_perm (is : List Int) (items : List Item) (h : is.Nodup) :
    (is.flatMap fun i => items.filter fun x => x.sceneIndex = i).Perm
      (items.filter fun x => x.sceneIndex ∈ is) := by
  induction is with
  | nil => simp
  | cons i rest ih =>
    have hi : i ∉ rest := (List.nodup_cons.mp h).1
    let here : Item → Bool := fun x => x.sceneIndex = i
    let wanted := items.filter fun x => x.sceneIndex ∈ i :: rest
    have hhere : wanted.filter here = items.filter here := by
      rw [List.filter_filter]
      refine List.filter_congr fun x _ => ?_
      by_cases hx : x.sceneIndex = i <;> simp [here, hx]
    have hlater : wanted.filter (fun x => !here x) =
        items.filter fun x => x.sceneIndex ∈ rest := by
      rw [List.filter_filter]
      refine List.filter_congr fun x _ => ?_
      by_cases hx : x.sceneIndex = i <;> simp [here, hx, hi]
    have hsplit := List.filter_append_perm here wanted
    rw [hhere, hlater] at hsplit
    exact ((ih (List.nodup_cons.mp h).2).append_left _).trans hsplit

/-- Items whose indices lie below a bound are shared out among these indices, each to one. -/
theorem filter_range_perm (n : Nat) (items : List Item)
    (h : ∀ x ∈ items, 0 ≤ x.sceneIndex ∧ x.sceneIndex < n) :
    ((List.range n).flatMap fun (i : Nat) => items.filter fun x => x.sceneIndex = (i : Int)).Perm
      items := by
  have hnodup : ((List.range n).map fun (i : Nat) => (i : Int)).Nodup :=
    List.Pairwise.map _ (fun _ _ hne heq => hne (Int.ofNat.inj heq)) List.nodup_range
  have hall : (items.filter fun x => x.sceneIndex ∈ (List.range n).map fun (i : Nat) => (i : Int)) =
      items := by
    refine List.filter_eq_self.mpr fun x hx => ?_
    obtain ⟨hlo, hhi⟩ := h x hx
    simp only [decide_eq_true_eq, List.mem_map, List.mem_range]
    exact ⟨x.sceneIndex.toNat, by omega, by omega⟩
  have hperm := filter_index_perm _ items hnodup
  rwa [hall, List.flatMap_map] at hperm

end SceneBook.Item
