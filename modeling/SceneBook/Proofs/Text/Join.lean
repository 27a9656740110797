import SceneBook.Proofs.Text.Runs

/-!
# Joined texts

What joining parts with a separator gives for lists put together from others, and when the parts can
be told from it.
-/

namespace SceneBook.Text

theorem join_cons (sep t : Text) {ts : List Text} (h : ts ≠ []) :
    join sep (t :: ts) = t ++ sep ++ join sep ts := by
  cases ts with
  | nil => exact absurd rfl h
  | cons u us => rfl

theorem join_append (sep : Text) {ts us : List Text} (ht : ts ≠ []) (hu : us ≠ []) :
    join sep (ts ++ us) = join sep ts ++ sep ++ join sep us := by
  induction ts with
  | nil => exact absurd rfl ht
  | cons t rest ih =>
    by_cases hr : rest = []
    · subst rest
      exact join_cons sep t hu
    · rw [List.cons_append, join_cons sep t (by simp [hr]), ih hr, join_cons sep t hr]
      simp only [List.append_assoc]

theorem join_cons_eq_flatMap (sep t : Text) (ts : List Text) :
    join sep (t :: ts) = t ++ ts.flatMap fun u => sep ++ u := by
  induction ts generalizing t with
  | nil => exact (List.append_nil t).symm
  | cons u us ih =>
    rw [join_cons sep t (List.cons_ne_nil u us), ih u, List.flatMap_cons]
    simp only [List.append_assoc]

theorem join_fused (sep a b : Text) (ts us : List Text) :
    join sep (ts ++ (a ++ sep ++ b) :: us) = join sep (ts ++ a :: b :: us) := by
  have hneighbours : join sep ((a ++ sep ++ b) :: us) = join sep (a :: b :: us) := by
    simp only [join_cons_eq_flatMap, List.flatMap_cons, List.append_assoc]
  by_cases hts : ts = []
  · subst ts
    exact hneighbours
  · rw [join_append sep hts (by simp), join_append sep hts (by simp), hneighbours]

theorem join_cut (sep a t b : Text) (ts us : List Text) :
    join sep (ts ++ (a ++ t ++ b) :: us) = join sep (ts ++ [a]) ++ t ++ join sep (b :: us) := by
  have hpart : join sep ((a ++ t ++ b) :: us) = join sep [a] ++ t ++ join sep (b :: us) := by
    simp only [join_cons_eq_flatMap, List.flatMap_nil, List.append_nil, List.append_assoc]
  by_cases hts : ts = []
  · subst ts
    exact hpart
  · rw [join_append sep hts (by simp), join_append sep hts (by simp), hpart]
    simp only [List.append_assoc]

theorem join_eq_nil_iff (sep : Text) {ts : List Text} (h : ∀ t ∈ ts, t ≠ []) :
    join sep ts = [] ↔ ts = [] := by
  cases ts with
  | nil => simp [join]
  | cons t rest => simp [join_cons_eq_flatMap, h t List.mem_cons_self]

theorem mem_join {sep t : Text} {ts : List Text} {c : CodePoint} (ht : t ∈ ts) (hc : c ∈ t) :
    c ∈ join sep ts := by
  induction ts with
  | nil => cases ht
  | cons first rest ih =>
    by_cases hrest : rest = []
    · subst rest
      rwa [List.mem_singleton.mp ht] at hc
    · rw [join_cons sep first hrest]
      rcases List.mem_cons.mp ht with rfl | ht
      · simp [hc]
      · simp [ih ht]

theorem mem_of_mem_join {sep : Text} {ts : List Text} {c : CodePoint} (h : c ∈ join sep ts) :
    c ∈ sep ∨ ∃ t ∈ ts, c ∈ t := by
  cases ts with
  | nil => cases h
  | cons t rest =>
    rw [join_cons_eq_flatMap, List.mem_append, List.mem_flatMap] at h
    rcases h with ht | ⟨u, hu, hc⟩
    · exact .inr ⟨t, List.mem_cons_self, ht⟩
    · rcases List.mem_append.mp hc with hsep | hc
      · exact .inl hsep
      · exact .inr ⟨u, List.mem_cons_of_mem t hu, hc⟩

section Runs

variable {p : CodePoint → Bool} {sep : Text} {ts us : List Text}

private theorem stops_flatMap (hne : sep ≠ []) (hsep : Stops p sep) (ts : List Text) :
    Stops p (ts.flatMap fun t => sep ++ t) := by
  cases ts with
  | nil => exact stops_of_forall (by simp)
  | cons t rest =>
    rw [List.flatMap_cons, List.append_assoc]
    exact (stops_append hne).mpr hsep

private theorem flatMap_inj_of_runs (hne : sep ≠ []) (hsep : Stops p sep)
    (hts : ∀ t ∈ ts, ∀ c ∈ t, p c) (hus : ∀ u ∈ us, ∀ c ∈ u, p c)
    (h : (ts.flatMap fun t => sep ++ t) = us.flatMap fun u => sep ++ u) : ts = us := by
  induction ts generalizing us with
  | nil =>
    cases us with
    | nil => rfl
    | cons u rest' => simp [hne] at h
  | cons t rest ih =>
    cases us with
    | nil => simp [hne] at h
    | cons u rest' =>
      obtain ⟨ht, hrest⟩ := List.forall_mem_cons.mp hts
      obtain ⟨hu, hrest'⟩ := List.forall_mem_cons.mp hus
      simp only [List.flatMap_cons, List.append_assoc, List.append_cancel_left_eq] at h
      obtain ⟨rfl, htail⟩ := append_inj_of_stops ht hu (stops_flatMap hne hsep rest)
        (stops_flatMap hne hsep rest') h
      rw [ih hrest hrest' htail]

/-- Parts that are not empty can be told from what is joined, if they end at every separator. -/
theorem join_inj_of_runs (hne : sep ≠ []) (hsep : Stops p sep)
    (hts : ∀ t ∈ ts, t ≠ [] ∧ ∀ c ∈ t, p c) (hus : ∀ u ∈ us, u ≠ [] ∧ ∀ c ∈ u, p c)
    (h : join sep ts = join sep us) : ts = us := by
  have hts' := join_eq_nil_iff sep fun t ht => (hts t ht).1
  have hus' := join_eq_nil_iff sep fun u hu => (hus u hu).1
  cases ts with
  | nil => exact (hus'.mp h.symm).symm
  | cons t rest =>
    cases us with
    | nil => exact hts'.mp h
    | cons u rest' =>
      rw [join_cons_eq_flatMap, join_cons_eq_flatMap] at h
      have hall : ((t :: rest).flatMap fun v => sep ++ v) =
          (u :: rest').flatMap fun v => sep ++ v := by
        rw [List.flatMap_cons, List.flatMap_cons, List.append_assoc, List.append_assoc, h]
      exact flatMap_inj_of_runs hne hsep (fun v hv => (hts v hv).2) (fun v hv => (hus v hv).2) hall

end Runs

end SceneBook.Text
