import SceneBook.Value.Entries

/-!
# Reading and writing entries

What a mapping holds after a write, and where what is read from it comes from. A write is seen
under every key that is the same as its own, and under no other.
-/

namespace SceneBook

private theorem Instant.same_congr {i j : Instant} (h : i.same j) (l : Instant) :
    i.same l = j.same l := by
  unfold Instant.same at h ⊢
  cases hi : i.offset <;> cases hj : j.offset <;> simp only [hi, hj, decide_eq_true_eq] at h
  case some.some p q =>
    simp only [Bool.and_eq_true, decide_eq_true_eq] at h
    obtain ⟨⟨hmoment, hsecond⟩, hmicro⟩ := h
    cases hl : l.offset with
    | none =>
      have hne (x : Instant) (hx : x.offset ≠ none) : x ≠ l := by
        rintro rfl
        exact hx hl
      simp [hne i (by simp [hi]), hne j (by simp [hj])]
    | some r => simp only [hmoment, hsecond, hmicro]
  all_goals
    subst h
    simp_all

namespace Scalar

private theorem eq_instant_of_canon {a : Scalar} {i : Instant} (h : a.canon = .instant i) :
    a = .instant i := by
  cases a with
  | float d =>
    rw [canon] at h
    split at h <;> cases h
  | _ => cases h <;> rfl

theorem same_eq_canon {a : Scalar} (h : ∀ i, a ≠ .instant i) (b : Scalar) :
    a.same b = decide (a.canon = b.canon) := by
  cases a with
  | instant i => exact absurd rfl (h i)
  | _ => rfl

theorem instant_same_iff {i : Instant} {b : Scalar} :
    (Scalar.instant i).same b ↔ ∃ j, b = .instant j ∧ i.same j := by
  constructor
  · intro h
    by_cases hb : ∃ j, b = .instant j
    · obtain ⟨j, rfl⟩ := hb
      exact ⟨j, rfl, h⟩
    · have hcanon : (Scalar.instant i).same b = decide (.instant i = b.canon) := by
        cases b with
        | instant j => exact absurd ⟨j, rfl⟩ hb
        | _ => rfl
      rw [hcanon, decide_eq_true_iff] at h
      exact absurd ⟨i, eq_instant_of_canon h.symm⟩ hb
  · rintro ⟨j, rfl, h⟩
    exact h

@[simp] theorem same_self (a : Scalar) : a.same a := by
  by_cases ha : ∃ i, a = .instant i
  · obtain ⟨i, rfl⟩ := ha
    refine instant_same_iff.mpr ⟨i, rfl, ?_⟩
    unfold Instant.same
    cases i.offset <;> simp
  · rw [same_eq_canon fun i hi => ha ⟨i, hi⟩]
    exact decide_eq_true rfl

theorem same_congr {a b : Scalar} (h : a.same b) (c : Scalar) : a.same c = b.same c := by
  by_cases ha : ∃ i, a = .instant i
  · obtain ⟨i, rfl⟩ := ha
    obtain ⟨j, rfl, hij⟩ := instant_same_iff.mp h
    rw [Bool.eq_iff_iff, instant_same_iff, instant_same_iff]
    simp only [Instant.same_congr hij]
  · have hne (i : Instant) : a ≠ .instant i := fun hi => ha ⟨i, hi⟩
    rw [same_eq_canon hne, decide_eq_true_iff] at h
    have hne' (i : Instant) : b ≠ .instant i := by
      rintro rfl
      exact hne i (eq_instant_of_canon h)
    rw [same_eq_canon hne, same_eq_canon hne', h]

theorem same_comm (a b : Scalar) : a.same b = b.same a := by
  rw [Bool.eq_iff_iff]
  constructor
  · intro h
    rw [← same_congr h a]
    exact same_self a
  · intro h
    rw [← same_congr h b]
    exact same_self b

theorem text_same (a b : Text) : (text a).same (.text b) = decide (a = b) := by
  have hcanon : (text a).same (.text b) = decide (text a = .text b) := rfl
  rw [hcanon, decide_eq_decide]
  exact ⟨text.inj, congrArg _⟩

end Scalar

namespace Entries

variable {α : Type} {es : Entries α} {k : Scalar} {v : α}

theorem mem_of_find? (h : es.find? k = some v) : v ∈ es.map Prod.snd := by
  induction es with
  | nil => cases h
  | cons e rest ih =>
    rw [find?] at h
    split at h
    · cases h
      exact List.mem_cons_self
    · exact List.mem_cons_of_mem _ (ih h)

theorem mem_put {u : α} (h : u ∈ (es.put k v).map Prod.snd) : u = v ∨ u ∈ es.map Prod.snd := by
  induction es with
  | nil => exact Or.inl (List.mem_singleton.mp h)
  | cons e rest ih =>
    rw [put] at h
    split at h
    · rcases List.mem_cons.mp h with rfl | h
      · exact Or.inl rfl
      · exact Or.inr (List.mem_cons_of_mem _ h)
    · rcases List.mem_cons.mp h with rfl | h
      · exact Or.inr List.mem_cons_self
      · rcases ih h with rfl | h
        · exact Or.inl rfl
        · exact Or.inr (List.mem_cons_of_mem _ h)

theorem find?_put (es : Entries α) (k : Scalar) (v : α) (k' : Scalar) :
    (es.put k v).find? k' = if k.same k' then some v else es.find? k' := by
  induction es with
  | nil => rfl
  | cons e rest ih =>
    obtain ⟨first, old⟩ := e
    rw [put]
    split
    · next hsame =>
      simp only [find?, Scalar.same_congr hsame k']
      split <;> rfl
    · next hother =>
      have hapart : first.same k' → ¬ k.same k' := by
        intro hfirst hk
        rw [Scalar.same_congr hfirst k, Scalar.same_comm, hk] at hother
        exact hother rfl
      simp only [find?, ih]
      split
      · next hfirst => rw [if_neg (hapart hfirst)]
      · rfl

end Entries

end SceneBook
