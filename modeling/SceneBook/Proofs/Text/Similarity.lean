import SceneBook.Proofs.Number.Rounding
import SceneBook.Proofs.Text.Subsequences

/-!
# The highest score

No two texts score more than a hundred. A text that is not empty scores a hundred against itself,
and no other text does, as long as a double can tell their lengths: all that the parts and the words
of texts score is discounted.
-/

namespace SceneBook

namespace Score

open Double

variable {a b c : Score} {ss : List Score}

private theorem zero_le (a : Score) : zero.bits ≤ a.bits :=
  UInt64.le_iff_toNat_le.mpr (Nat.zero_le _)

private theorem max_eq_left (h : b.bits ≤ a.bits) : max a b = a := if_neg (UInt64.not_lt.mpr h)

theorem max_of_both {P : Score → Prop} (ha : P a) (hb : P b) : P (max a b) := by
  unfold max
  split
  · exact hb
  · exact ha

private theorem best_of_forall {P : Score → Prop} (hzero : P zero) (h : ∀ s ∈ ss, P s) :
    P (best ss) := by
  have hfold (a : Score) (ha : P a) : P (ss.foldl max a) := by
    induction ss generalizing a with
    | nil => exact ha
    | cons s rest ih =>
      obtain ⟨hs, hrest⟩ := List.forall_mem_cons.mp h
      exact ih hrest (max a s) (max_of_both ha hs)
  exact hfold zero hzero

private theorem max_le (ha : a.bits ≤ c.bits) (hb : b.bits ≤ c.bits) : (max a b).bits ≤ c.bits :=
  max_of_both (P := fun s => s.bits ≤ c.bits) ha hb

private theorem best_le (h : ∀ s ∈ ss, s.bits ≤ c.bits) : (best ss).bits ≤ c.bits :=
  best_of_forall (P := fun s => s.bits ≤ c.bits) (zero_le c) h

private theorem best_lt (hc : zero.bits < c.bits) (h : ∀ s ∈ ss, s.bits < c.bits) :
    (best ss).bits < c.bits :=
  best_of_forall (P := fun s => s.bits < c.bits) hc h

private theorem max_zero_left (a : Score) : max zero a = a := by
  unfold max
  split
  · rfl
  · next h => exact congrArg Double.mk (UInt64.le_antisymm (zero_le a) (UInt64.not_lt.mp h))

private theorem best_pair (a b : Score) : best [a, b] = max a b := by
  change max (max zero a) b = max a b
  rw [max_zero_left]

private theorem best_cons_eq (h : ∀ s ∈ ss, s.bits ≤ a.bits) : best (a :: ss) = a := by
  change ss.foldl max (max zero a) = a
  rw [max_zero_left]
  induction ss with
  | nil => rfl
  | cons s rest ih =>
    obtain ⟨hs, hrest⟩ := List.forall_mem_cons.mp h
    rw [List.foldl_cons, max_eq_left hs, ih hrest]

def one : Score := ofRatio false 1 1

private theorem isAmount_one : one.IsAmount := by decide

private theorem isAmount_hundred : hundred.IsAmount := by decide

section

variable {distance lost total m n : Nat}

/-- What is lost is at least as much of the total as one number is of another. -/
theorem ofDistance_le_of (htotal : 0 < total) (h : distance ≤ total) (hn : 0 < n)
    (hshare : m * total ≤ distance * n) (hrest : (sub one (ofRatio false m n)).IsAmount) :
    (ofDistance distance total).bits ≤ (mul hundred (sub one (ofRatio false m n))).bits := by
  have hwhole : (ofRatio false distance total).bits ≤ one.bits :=
    ofRatio_mono htotal one_pos (by omega)
  rw [ofDistance, if_neg htotal.ne']
  exact mul_mono isAmount_hundred hrest (UInt64.le_refl _)
    (sub_anti isAmount_one hwhole (ofRatio_mono hn htotal hshare))

private theorem ofDistance_le (h : distance ≤ total) :
    (ofDistance distance total).bits ≤ hundred.bits := by
  rcases Nat.eq_zero_or_pos total with rfl | htotal
  · exact UInt64.le_refl _
  · have hshare : 0 * total ≤ distance * 1 := by omega
    have hle := ofDistance_le_of htotal h one_pos hshare (by decide +kernel)
    have hall : mul hundred (sub one (ofRatio false 0 1)) = hundred := by
      decide +kernel
    rwa [hall] at hle

private theorem ofDistance_lt (hpos : 0 < distance) (h : distance ≤ total)
    (htotal : total ≤ 2 ^ 53) :
    (ofDistance distance total).bits < hundred.bits := by
  have hshare : 1 * total ≤ distance * 2 ^ 53 := Nat.mul_le_mul hpos htotal
  have hle := ofDistance_le_of (by omega) h (Nat.two_pow_pos 53) hshare (by decide +kernel)
  have hlt : (mul hundred (sub one (ofRatio false 1 (2 ^ 53)))).bits < hundred.bits := by
    decide +kernel
  exact UInt64.lt_of_le_of_lt hle hlt

private theorem ofDistance_zero (total : Nat) : ofDistance 0 total = hundred := by
  unfold ofDistance
  split
  · rfl
  · have hnone : ofRatio false 0 total = zero := by
      rw [zero, ofRatio, ofRatio, if_pos rfl, if_pos rfl]
    rw [hnone]
    decide +kernel

private theorem ofLoss_le (h : lost ≤ total) : (ofLoss lost total).bits ≤ hundred.bits := by
  rcases Nat.eq_zero_or_pos total with rfl | htotal
  · exact UInt64.le_refl _
  · have hwhole : (ofRatio false (100 * lost) total).bits ≤ hundred.bits :=
      ofRatio_mono htotal one_pos (by omega)
    rw [ofLoss, if_neg htotal.ne']
    have hle := sub_anti isAmount_hundred hwhole (zero_le _)
    have hall : sub hundred zero = hundred := by decide +kernel
    rwa [hall] at hle

end

private theorem discount_lt {factor : Double} (hfactor : factor.bits ≤ (ofRatio false 95 100).bits)
    (ha : a.bits ≤ hundred.bits) :
    (mul factor a).bits < hundred.bits ∧ (mul a factor).bits < hundred.bits := by
  have hmost : (ofRatio false 95 100).IsAmount := by decide +kernel
  constructor
  · apply UInt64.lt_of_le_of_lt (mul_mono hmost isAmount_hundred hfactor ha)
    decide +kernel
  · apply UInt64.lt_of_le_of_lt (mul_mono isAmount_hundred hmost ha hfactor)
    decide +kernel

end Score

namespace Text

open Score Double

variable (a b : Text)

private theorem ratio_le : (ratio a b).bits ≤ hundred.bits := ofDistance_le distance_le

private theorem windowRatio_le : (windowRatio a b).bits ≤ hundred.bits := by
  apply best_le
  intro s hs
  obtain ⟨window, -, rfl⟩ := List.mem_map.mp hs
  exact ratio_le a window

private theorem partialRatio_le : (partialRatio a b).bits ≤ hundred.bits := by
  unfold partialRatio
  split
  · split
    · exact UInt64.le_refl _
    · exact zero_le hundred
  · split
    · exact windowRatio_le a b
    · split
      · exact windowRatio_le b a
      · exact max_le (windowRatio_le a b) (windowRatio_le b a)

private theorem wordSetRatio_le : (wordSetRatio a b).bits ≤ hundred.bits := by
  unfold wordSetRatio
  dsimp only
  split
  · exact zero_le hundred
  · split
    · exact UInt64.le_refl _
    · have hapart := distance_le (a := joinWords (ownWords a b)) (b := joinWords (ownWords b a))
      split
      · exact ofLoss_le (by omega)
      · apply best_le
        simp only [List.forall_mem_cons]
        exact ⟨ofLoss_le (by omega), ofLoss_le (by omega), ofLoss_le (by omega), by simp⟩

private theorem wordRatio_le : (wordRatio a b).bits ≤ hundred.bits :=
  max_le (ratio_le _ _) (wordSetRatio_le a b)

private theorem partialWordRatio_le : (partialWordRatio a b).bits ≤ hundred.bits := by
  unfold partialWordRatio
  split
  · exact UInt64.le_refl _
  · exact max_le (partialRatio_le _ _) (partialRatio_le _ _)

/-- The score is that of the whole texts or one that is discounted, unless one of them is empty. -/
theorem similarity_cases : (a = [] ∨ b = []) ∧ similarity a b = zero ∨
    ∃ others : List Score, (∀ s ∈ others, s.bits < hundred.bits) ∧
      similarity a b = best (ratio a b :: others) := by
  have hwords := UInt64.le_refl (ofRatio false 95 100).bits
  have hparts : (if Nat.max a.length b.length ≤ 8 * Nat.min a.length b.length
      then ofRatio false 9 10 else ofRatio false 6 10).bits ≤ (ofRatio false 95 100).bits := by
    split <;> decide +kernel
  by_cases hshort : Nat.min a.length b.length = 0
  · left
    refine ⟨?_, if_pos hshort⟩
    rcases Nat.min_eq_zero_iff.mp hshort with ha | hb
    · exact .inl (List.length_eq_zero_iff.mp ha)
    · exact .inr (List.length_eq_zero_iff.mp hb)
  · right
    simp only [similarity, if_neg hshort]
    split
    · have hword := (discount_lt hwords (wordRatio_le a b)).1
      exact ⟨_, List.forall_mem_singleton.mpr hword, (best_pair _ _).symm⟩
    · have hpart := (discount_lt hparts (partialRatio_le a b)).1
      have hword := (discount_lt hwords (partialWordRatio_le a b)).2
      have hboth := (discount_lt hparts (UInt64.le_of_lt hword)).2
      exact ⟨_, List.forall_mem_cons.mpr ⟨hpart, List.forall_mem_singleton.mpr hboth⟩, rfl⟩

theorem similarity_le : (similarity a b).bits ≤ hundred.bits := by
  rcases similarity_cases a b with ⟨-, hzero⟩ | ⟨others, hothers, hbest⟩
  · rw [hzero]
    exact zero_le hundred
  · rw [hbest]
    apply best_le
    intro s hs
    rcases List.mem_cons.mp hs with rfl | hs
    · exact ratio_le a b
    · exact UInt64.le_of_lt (hothers s hs)

variable {a b}

theorem similarity_self (ha : a ≠ []) : similarity a a = hundred := by
  have hratio : ratio a a = hundred := by
    rw [ratio, distance_eq_zero_iff.mpr rfl, ofDistance_zero]
  rcases similarity_cases a a with ⟨hempty, -⟩ | ⟨others, hothers, hbest⟩
  · exact absurd hempty (by simp [ha])
  · rw [hbest, hratio]
    apply best_cons_eq
    intro s hs
    exact UInt64.le_of_lt (hothers s hs)

/-- Two texts that are not equal score less than a hundred, unless they are too long for a double to
tell that they differ. -/
theorem similarity_lt (hne : a ≠ b) (hlength : a.length + b.length ≤ 2 ^ 53) :
    (similarity a b).bits < hundred.bits := by
  have hzero : zero.bits < hundred.bits := by decide +kernel
  have hdistance : 0 < distance a b := Nat.pos_of_ne_zero (distance_eq_zero_iff.not.mpr hne)
  have hratio : (ratio a b).bits < hundred.bits := ofDistance_lt hdistance distance_le hlength
  rcases similarity_cases a b with ⟨-, hnone⟩ | ⟨others, hothers, hbest⟩
  · rw [hnone]
    exact hzero
  · rw [hbest]
    exact best_lt hzero (List.forall_mem_cons.mpr ⟨hratio, hothers⟩)

end Text

end SceneBook
