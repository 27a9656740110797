import SceneBook.Proofs.Text.Join
import SceneBook.Proofs.Workbook.Grouping

/-!
# Grouping piece by piece

Items can be grouped in pieces, and the groupings put together one after the other. What an index
has in the end is what it has in the pieces, joined; single items are such pieces, so that a
grouping can also be made by adding the items one by one.
-/

namespace SceneBook.Item

/-- The earlier and the later code of one index, joined where it has both. -/
def both (separator : Text) : Option Text → Option Text → Option Text
  | some a, some b => some (a ++ separator ++ b)
  | some a, none => some a
  | none, b? => b?

/-- Puts a code behind the one that its index has, or where the index has its place. -/
def addCode (separator : Text) (i : Int) (code : Text) : List (Int × Text) → List (Int × Text)
  | [] => [(i, code)]
  | (j, a) :: rest =>
    if i < j then (i, code) :: (j, a) :: rest
    else if i = j then (j, a ++ separator ++ code) :: rest
    else (j, a) :: addCode separator i code rest

/-- An earlier grouping with all codes of a later one added to it. -/
def unite (separator : Text) (earlier later : List (Int × Text)) : List (Int × Text) :=
  later.foldl (fun groups g => addCode separator g.1 g.2 groups) earlier

/-- Strictly increasing indices, so that no two groups have the same. -/
def Ascending (groups : List (Int × Text)) : Prop := groups.Pairwise fun g h => g.1 < h.1

section Groups

variable {sep : Text} {groups earlier later : List (Int × Text)} {i k : Int} {code : Text}

private theorem lookup_eq_none_of_lt (h : ∀ g ∈ groups, k < g.1) : groups.lookup k = none := by
  induction groups with
  | nil => rfl
  | cons g rest ih =>
    obtain ⟨hk, hrest⟩ := List.forall_mem_cons.mp h
    rw [lookup_cons_eq, if_neg (Int.ne_of_lt hk)]
    exact ih hrest

private theorem mem_iff_lookup (h : Ascending groups) :
    (k, code) ∈ groups ↔ groups.lookup k = some code := by
  induction groups with
  | nil => simp
  | cons g rest ih =>
    obtain ⟨j, a⟩ := g
    obtain ⟨hlater, hrest⟩ := List.pairwise_cons.mp h
    rw [List.mem_cons, lookup_cons_eq, ih hrest]
    by_cases hk : k = j
    · subst hk
      have hnone := lookup_eq_none_of_lt hlater
      simp [hnone, eq_comm]
    · simp [hk]

theorem Ascending.ext (hearlier : Ascending earlier) (hlater : Ascending later)
    (h : ∀ k, earlier.lookup k = later.lookup k) : earlier = later := by
  have hirrefl : Std.Irrefl fun g h : Int × Text => g.1 < h.1 := ⟨fun g => Int.lt_irrefl g.1⟩
  have hantisymm : Std.Antisymm fun g h : Int × Text => g.1 < h.1 :=
    ⟨fun g h hgh hhg => absurd hgh (Int.lt_asymm hhg)⟩
  apply List.Pairwise.eq_of_mem_iff hearlier hlater
  intro g
  rw [mem_iff_lookup hearlier, h, mem_iff_lookup hlater]

private theorem fst_mem_addCode {g : Int × Text} (hg : g ∈ addCode sep i code groups) :
    g.1 = i ∨ ∃ g' ∈ groups, g.1 = g'.1 := by
  induction groups with
  | nil => exact .inl (congrArg Prod.fst (List.mem_singleton.mp hg))
  | cons first rest ih =>
    obtain ⟨j, a⟩ := first
    rw [addCode] at hg
    split_ifs at hg with hlt heq
    · rcases List.mem_cons.mp hg with rfl | hg
      · exact .inl rfl
      · exact .inr ⟨g, hg, rfl⟩
    · rcases List.mem_cons.mp hg with rfl | hg
      · exact .inl heq.symm
      · exact .inr ⟨g, List.mem_cons_of_mem _ hg, rfl⟩
    · rcases List.mem_cons.mp hg with rfl | hg
      · exact .inr ⟨_, List.mem_cons_self, rfl⟩
      · rcases ih hg with hi | ⟨g', hg', hfst⟩
        · exact .inl hi
        · exact .inr ⟨g', List.mem_cons_of_mem _ hg', hfst⟩

private theorem ascending_addCode (h : Ascending groups) (sep : Text) (i : Int) (code : Text) :
    Ascending (addCode sep i code groups) := by
  induction groups with
  | nil => exact List.pairwise_singleton _ _
  | cons first rest ih =>
    obtain ⟨j, a⟩ := first
    obtain ⟨hlater, hrest⟩ := List.pairwise_cons.mp h
    rw [addCode]
    split_ifs with hlt heq
    · refine List.pairwise_cons.mpr ⟨List.forall_mem_cons.mpr ⟨hlt, fun g hg => ?_⟩, h⟩
      exact Int.lt_trans hlt (hlater g hg)
    · exact List.pairwise_cons.mpr ⟨hlater, hrest⟩
    · refine List.pairwise_cons.mpr ⟨fun g hg => ?_, ih hrest⟩
      rcases fst_mem_addCode hg with hi | ⟨g', hg', hfst⟩
      · rw [hi]
        omega
      · rw [hfst]
        exact hlater g' hg'

private theorem lookup_addCode (h : Ascending groups) (sep : Text) (i : Int) (code : Text)
    (k : Int) :
    (addCode sep i code groups).lookup k =
      if k = i then both sep (groups.lookup i) (some code) else groups.lookup k := by
  induction groups with
  | nil => exact lookup_cons_eq i code [] k
  | cons first rest ih =>
    obtain ⟨j, a⟩ := first
    obtain ⟨hlater, hrest⟩ := List.pairwise_cons.mp h
    rw [addCode]
    split_ifs with hlt hk heq hk hk
    · have hnone : List.lookup i ((j, a) :: rest) = none :=
        lookup_eq_none_of_lt (List.forall_mem_cons.mpr
          ⟨hlt, fun g hg => Int.lt_trans hlt (hlater g hg)⟩)
      rw [lookup_cons_eq, if_pos hk, hnone]
      rfl
    · rw [lookup_cons_eq, if_neg hk]
    · subst heq
      rw [lookup_cons_eq, if_pos hk, lookup_cons_eq, if_pos rfl]
      rfl
    · subst heq
      rw [lookup_cons_eq, if_neg hk, lookup_cons_eq, if_neg hk]
    · subst hk
      rw [lookup_cons_eq, if_neg heq, ih hrest, if_pos rfl, lookup_cons_eq, if_neg heq]
    · rw [lookup_cons_eq, lookup_cons_eq, ih hrest, if_neg hk]

private theorem unite_lookup (hearlier : Ascending earlier) (hlater : Ascending later)
    (sep : Text) :
    Ascending (unite sep earlier later) ∧
      ∀ k, (unite sep earlier later).lookup k = both sep (earlier.lookup k) (later.lookup k) := by
  induction later generalizing earlier with
  | nil => exact ⟨hearlier, fun k => by cases h : earlier.lookup k <;> simp [unite, both, h]⟩
  | cons g rest ih =>
    obtain ⟨j, b⟩ := g
    obtain ⟨hbehind, hrest⟩ := List.pairwise_cons.mp hlater
    obtain ⟨hascending, hlookup⟩ := ih (ascending_addCode hearlier sep j b) hrest
    refine ⟨hascending, fun k => (hlookup k).trans ?_⟩
    rw [lookup_addCode hearlier, lookup_cons_eq]
    by_cases hk : k = j
    · subst hk
      rw [if_pos rfl, if_pos rfl, lookup_eq_none_of_lt hbehind]
      cases earlier.lookup k <;> rfl
    · rw [if_neg hk, if_neg hk]

end Groups

private theorem ascending_groupByScene (sep : Text) (items : List Item) :
    Ascending (groupByScene sep items) := by
  rw [groupByScene_eq]
  exact List.Pairwise.map _ (fun _ _ h => h) (indices_pairwise items)

private theorem mem_groupByScene_iff {sep : Text} {items : List Item} {i : Int} {code : Text} :
    (i, code) ∈ groupByScene sep items ↔
      (∃ x ∈ items, x.sceneIndex = i) ∧ code = codeAt sep i items := by
  rw [mem_iff_lookup (ascending_groupByScene sep items), lookup_groupByScene, ← mem_indices]
  by_cases hi : i ∈ indices items <;> simp [hi, eq_comm]

/-- Where items are split the code of an index is split too, if both parts have items of it. -/
theorem lookup_groupByScene_append (sep : Text) (xs ys : List Item) (k : Int) :
    (groupByScene sep (xs ++ ys)).lookup k =
      both sep ((groupByScene sep xs).lookup k) ((groupByScene sep ys).lookup k) := by
  have hmem : k ∈ indices (xs ++ ys) ↔ k ∈ indices xs ∨ k ∈ indices ys := by
    simp only [mem_indices, List.mem_append, or_and_right, exists_or]
  rw [lookup_groupByScene, lookup_groupByScene, lookup_groupByScene]
  by_cases hxs : k ∈ indices xs
  · by_cases hys : k ∈ indices ys
    · have hcodes {zs : List Item} (hk : k ∈ indices zs) :
          (zs.filter fun x => x.sceneIndex = k).map code ≠ [] := fun hnil =>
        filter_eq_nil_iff_not_mem.mp (List.map_eq_nil_iff.mp hnil) hk
      have hjoin : codeAt sep k (xs ++ ys) = codeAt sep k xs ++ sep ++ codeAt sep k ys := by
        rw [codeAt, List.filter_append, List.map_append]
        exact Text.join_append sep (hcodes hxs) (hcodes hys)
      simp [hmem, hxs, hys, hjoin, both]
    · have hsame : codeAt sep k (xs ++ ys) = codeAt sep k xs := by
        rw [codeAt, List.filter_append, filter_eq_nil_iff_not_mem.mpr hys, List.append_nil]
        rfl
      simp [hmem, hxs, hys, hsame, both]
  · have hsame : codeAt sep k (xs ++ ys) = codeAt sep k ys := by
      rw [codeAt, List.filter_append, filter_eq_nil_iff_not_mem.mpr hxs, List.nil_append]
      rfl
    simp [hmem, hxs, hsame, both]

private theorem groupByScene_append (sep : Text) (xs ys : List Item) :
    groupByScene sep (xs ++ ys) = unite sep (groupByScene sep xs) (groupByScene sep ys) := by
  obtain ⟨hascending, hlookup⟩ :=
    unite_lookup (ascending_groupByScene sep xs) (ascending_groupByScene sep ys) sep
  apply (ascending_groupByScene sep (xs ++ ys)).ext hascending
  intro k
  rw [lookup_groupByScene_append, hlookup]

private theorem groupByScene_append_flatten (sep : Text) (items : List Item)
    (pieces : List (List Item)) :
    groupByScene sep (items ++ pieces.flatten) =
      (pieces.map (groupByScene sep)).foldl (unite sep) (groupByScene sep items) := by
  induction pieces generalizing items with
  | nil => rw [List.flatten_nil, List.append_nil, List.map_nil, List.foldl_nil]
  | cons piece rest ih =>
    rw [List.flatten_cons, ← List.append_assoc, ih, groupByScene_append, List.map_cons,
      List.foldl_cons]

private theorem groupByScene_singleton (sep : Text) (x : Item) :
    groupByScene sep [x] = [(x.sceneIndex, x.code)] := by
  simp [groupByScene, gather, sortIndices, insertIndex, Text.join]

/-- The groups come in strictly increasing order of their indices, one for each index that items
have, with the codes of these items joined in their order. A list of items can be split anywhere,
and the groupings of the pieces be put together; so it can be gone through item by item as well. -/
theorem groupByScene_piecewise (sep : Text) (items xs ys : List Item)
    (pieces : List (List Item)) :
    (groupByScene sep items).Pairwise (fun g h => g.1 < h.1) ∧
      (∀ i code, (i, code) ∈ groupByScene sep items ↔ (∃ x ∈ items, x.sceneIndex = i) ∧
        code = Text.join sep ((items.filter fun x => x.sceneIndex = i).map Item.code)) ∧
      (∀ i, (groupByScene sep (xs ++ ys)).lookup i =
        both sep ((groupByScene sep xs).lookup i) ((groupByScene sep ys).lookup i)) ∧
      groupByScene sep (xs ++ ys) = unite sep (groupByScene sep xs) (groupByScene sep ys) ∧
      groupByScene sep pieces.flatten = (pieces.map (groupByScene sep)).foldl (unite sep) [] ∧
      groupByScene sep items =
        items.foldl (fun groups x => addCode sep x.sceneIndex x.code groups) [] := by
  refine ⟨ascending_groupByScene sep items, fun i code => mem_groupByScene_iff,
    lookup_groupByScene_append sep xs ys, groupByScene_append sep xs ys,
    groupByScene_append_flatten sep [] pieces, ?_⟩
  have hsingles : (items.map fun x => [x]).flatten = items := List.flatMap_singleton' items
  have hpieces := groupByScene_append_flatten sep [] (items.map fun x => [x])
  rw [List.nil_append, hsingles, List.map_map, List.foldl_map] at hpieces
  simp only [Function.comp_apply, groupByScene_singleton] at hpieces
  exact hpieces

/-- Codes of one scene are joined across the border of two pieces, and a later piece may have
earlier scenes. -/
example (e : Entries Value) (v : Classification) :
    groupByScene ";" ([⟨2, e, "c", v⟩, ⟨0, e, "a", v⟩] ++ [⟨0, e, "b", v⟩, ⟨-1, e, "", v⟩]) =
      [(-1, []), (0, "a;b"), (2, "c")] := rfl

end SceneBook.Item
