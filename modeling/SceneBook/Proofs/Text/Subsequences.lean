import SceneBook.Text.Similarity

/-!
# Common subsequences

The table of common subsequences is filled row by row. Each entry is the length of a longest common
subsequence of two prefixes, so the last one is that of both texts, and the distance of two texts is
zero exactly when they are equal.
-/

namespace SceneBook.Text

/-- The longest texts that are subsequences of both texts have this length. -/
structure LongestCommon (a b : Text) (n : Nat) : Prop where
  attained : ∃ s : Text, s.Sublist a ∧ s.Sublist b ∧ s.length = n
  length_le : ∀ s : Text, s.Sublist a → s.Sublist b → s.length ≤ n

namespace LongestCommon

variable {a b : Text} {c d : CodePoint} {n left up : Nat}

private theorem nil_left (b : Text) : LongestCommon [] b 0 where
  attained := ⟨[], .refl [], List.nil_sublist b, rfl⟩
  length_le _ hs _ := hs.length_le

private theorem symm (h : LongestCommon a b n) : LongestCommon b a n where
  attained := by
    obtain ⟨s, ha, hb, hs⟩ := h.attained
    exact ⟨s, hb, ha, hs⟩
  length_le s hb ha := h.length_le s ha hb

private theorem nil_right (a : Text) : LongestCommon a [] 0 := (nil_left a).symm

private theorem reverse (h : LongestCommon a b n) : LongestCommon a.reverse b.reverse n where
  attained := by
    obtain ⟨s, ha, hb, hs⟩ := h.attained
    exact ⟨s.reverse, ha.reverse, hb.reverse, by rw [List.length_reverse, hs]⟩
  length_le s ha hb := by
    have ha : s.reverse.Sublist a := List.reverse_sublist.mp (by rwa [List.reverse_reverse])
    have hb : s.reverse.Sublist b := List.reverse_sublist.mp (by rwa [List.reverse_reverse])
    have hlength := h.length_le s.reverse ha hb
    rwa [List.length_reverse] at hlength

/-- Two equal heads go together. -/
theorem cons (h : LongestCommon a b n) : LongestCommon (c :: a) (c :: b) (n + 1) where
  attained := by
    obtain ⟨s, ha, hb, rfl⟩ := h.attained
    exact ⟨c :: s, ha.cons_cons c, hb.cons_cons c, rfl⟩
  length_le s ha hb := by
    have htail := h.length_le s.tail ha.tail hb.tail
    rw [List.length_tail] at htail
    omega

private theorem cons_ne (hne : c ≠ d) (hleft : LongestCommon (c :: a) b left)
    (hup : LongestCommon a (d :: b) up) :
    LongestCommon (c :: a) (d :: b) (Nat.max left up) where
  attained := by
    rcases Nat.le_total left up with hle | hle
    · obtain ⟨s, ha, hb, hs⟩ := hup.attained
      exact ⟨s, ha.cons c, hb, hs.trans (Nat.max_eq_right hle).symm⟩
    · obtain ⟨s, ha, hb, hs⟩ := hleft.attained
      exact ⟨s, ha, hb.cons d, hs.trans (Nat.max_eq_left hle).symm⟩
  length_le s ha hb := by
    rcases List.sublist_cons_iff.mp ha with ha | ⟨u, rfl, -⟩
    · exact Nat.le_trans (hup.length_le s ha hb) (Nat.le_max_right left up)
    · rcases List.sublist_cons_iff.mp hb with hb | ⟨v, hv, -⟩
      · exact Nat.le_trans (hleft.length_le _ ha hb) (Nat.le_max_left left up)
      · exact absurd (List.cons.inj hv).1 hne

end LongestCommon

/-- A row of the table from some column on. It belongs to the first text up to some character, and
to the second text up to each of the remaining ones. Both are read from their ends here. -/
inductive CommonRow (a : Text) : Text → Text → List Nat → Prop
  | nil {before : Text} : CommonRow a before [] []
  | cons {before bs : Text} {b : CodePoint} {n : Nat} {ns : List Nat} :
    LongestCommon a (b :: before) n → CommonRow a (b :: before) bs ns →
      CommonRow a before (b :: bs) (n :: ns)

namespace CommonRow

variable {a b before bs : Text} {ns : List Nat}

private theorem first (before bs : Text) : CommonRow [] before bs (List.replicate bs.length 0) := by
  induction bs generalizing before with
  | nil => exact .nil
  | cons b rest ih => exact .cons (.nil_left (b :: before)) (ih (b :: before))

/-- A row is filled from the row above it and the entries before it. -/
theorem step {c : CodePoint} {left corner : Nat} (h : CommonRow a before bs ns)
    (hleft : LongestCommon (c :: a) before left) (hcorner : LongestCommon a before corner) :
    CommonRow (c :: a) before bs (commonRow c left corner bs ns) := by
  induction h generalizing left corner with
  | nil => exact .nil
  | @cons before bs b up above hup _ ih =>
    have hhere : LongestCommon (c :: a) (b :: before)
        (if c = b then corner + 1 else Nat.max left up) := by
      by_cases hcb : c = b
      · subst hcb
        rw [if_pos rfl]
        exact hcorner.cons
      · rw [if_neg hcb]
        exact hleft.cons_ne hcb hup
    exact .cons hhere (ih hhere hup)

private theorem foldl (t : Text) (h : CommonRow a [] b ns) : CommonRow (t.reverse ++ a) [] b
    (t.foldl (fun above c => commonRow c 0 0 b above) ns) := by
  induction t generalizing a ns with
  | nil => exact h
  | cons c rest ih =>
    rw [List.reverse_cons, List.append_assoc]
    exact ih (h.step (.nil_right (c :: a)) (.nil_right a))

private theorem last {n : Nat} (h : CommonRow a before bs ns) (hn : LongestCommon a before n) :
    LongestCommon a (bs.reverse ++ before) (ns.getLast?.getD n) := by
  induction h generalizing n with
  | nil => exact hn
  | cons hhere _ ih =>
    rw [List.reverse_cons, List.append_assoc, List.getLast?_cons]
    exact ih hhere

end CommonRow

private theorem longestCommon_commonLength (a b : Text) : LongestCommon a b (commonLength a b) := by
  have hrow := (CommonRow.first [] b).foldl a
  have hlast := (hrow.last (.nil_right _)).reverse
  rwa [List.append_nil, List.append_nil, List.reverse_reverse, List.reverse_reverse] at hlast

section

variable {a b : Text}

private theorem commonLength_le : commonLength a b ≤ a.length ∧ commonLength a b ≤ b.length := by
  obtain ⟨s, ha, hb, hs⟩ := (longestCommon_commonLength a b).attained
  rw [← hs]
  exact ⟨ha.length_le, hb.length_le⟩

theorem distance_le : distance a b ≤ a.length + b.length := Nat.sub_le _ _

theorem distance_eq_zero_iff : distance a b = 0 ↔ a = b := by
  constructor
  · intro h
    obtain ⟨ha, hb⟩ := commonLength_le (a := a) (b := b)
    unfold distance at h
    -- With no distance a common subsequence is as long as either text.
    obtain ⟨s, hsa, hsb, hs⟩ := (longestCommon_commonLength a b).attained
    rw [← hsa.eq_of_length (by omega), hsb.eq_of_length (by omega)]
  · rintro rfl
    have hall := (longestCommon_commonLength a a).length_le a (.refl a) (.refl a)
    unfold distance
    omega

end

end SceneBook.Text
