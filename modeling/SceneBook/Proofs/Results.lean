import Mathlib.Data.List.Forall2

/-!
# Results

How a computation that may fail has succeeded: each of its steps has. Two of them agree when they
fail alike or succeed with related results.
-/

namespace SceneBook

variable {ε ε' α β : Type} {b : β}

theorem bind_eq_ok_iff {x : Except ε α} {f : α → Except ε β} :
    (x >>= f) = .ok b ↔ ∃ a, x = .ok a ∧ f a = .ok b := by
  cases x with
  | error e => simp [bind, Except.bind]
  | ok a => simp [bind, Except.bind]

theorem bind_eq_error_iff {x : Except ε α} {f : α → Except ε β} {e : ε} :
    (x >>= f) = .error e ↔ x = .error e ∨ ∃ a, x = .ok a ∧ f a = .error e := by
  cases x with
  | error e => simp [bind, Except.bind]
  | ok a => simp [bind, Except.bind]

theorem map_eq_ok_iff {x : Except ε α} {f : α → β} :
    x.map f = .ok b ↔ ∃ a, x = .ok a ∧ f a = b := by
  cases x with
  | error e => simp [Except.map]
  | ok a => simp [Except.map]

theorem map_eq_error_iff {x : Except ε α} {f : α → β} {e : ε} :
    x.map f = .error e ↔ x = .error e := by
  cases x with
  | error e => simp [Except.map]
  | ok a => simp [Except.map]

theorem mapError_eq_error_iff {x : Except ε β} {f : ε → ε'} {e' : ε'} :
    x.mapError f = .error e' ↔ ∃ e, x = .error e ∧ f e = e' := by
  cases x with
  | error e =>
    constructor
    · intro h
      exact ⟨e, rfl, Except.error.inj h⟩
    · rintro ⟨_, ⟨⟩, rfl⟩
      rfl
  | ok a => exact ⟨nofun, nofun⟩

theorem mapError_eq_ok_iff {x : Except ε β} {f : ε → ε'} : x.mapError f = .ok b ↔ x = .ok b := by
  cases x with
  | error e => exact ⟨nofun, nofun⟩
  | ok a =>
    constructor
    · rintro ⟨⟩
      rfl
    · rintro ⟨⟩
      rfl

theorem toOption_eq_some_iff {x : Except ε β} : x.toOption = some b ↔ x = .ok b := by
  cases x with
  | error e => simp [Except.toOption]
  | ok a => simp [Except.toOption]

theorem mapM_eq_ok_iff {f : α → Except ε β} {as : List α} {bs : List β} :
    as.mapM f = .ok bs ↔ List.Forall₂ (fun a b => f a = .ok b) as bs := by
  induction as generalizing bs with
  | nil => cases bs <;> simp [pure, Except.pure]
  | cons a rest ih =>
    rw [List.mapM_cons, bind_eq_ok_iff, List.forall₂_cons_left_iff]
    constructor
    · rintro ⟨b, hb, h⟩
      obtain ⟨found, hfound, h⟩ := bind_eq_ok_iff.mp h
      exact ⟨b, found, hb, ih.mp hfound, (Except.ok.inj h).symm⟩
    · rintro ⟨b, found, hb, hfound, rfl⟩
      exact ⟨b, hb, bind_eq_ok_iff.mpr ⟨found, ih.mpr hfound, rfl⟩⟩

theorem mapM_eq_ok_map_iff {f : α → Except ε β} {g : α → β} {P : α → Prop}
    (h : ∀ a b, f a = .ok b ↔ P a ∧ g a = b) {as : List α} {bs : List β} :
    as.mapM f = .ok bs ↔ (∀ a ∈ as, P a) ∧ as.map g = bs := by
  rw [mapM_eq_ok_iff]
  simp only [h]
  induction as generalizing bs with
  | nil => cases bs <;> simp
  | cons a rest ih =>
    rw [List.forall₂_cons_left_iff, List.forall_mem_cons, List.map_cons]
    constructor
    · rintro ⟨b, found, ⟨ha, rfl⟩, hrest, rfl⟩
      obtain ⟨hall, rfl⟩ := ih.mp hrest
      exact ⟨⟨ha, hall⟩, rfl⟩
    · rintro ⟨⟨ha, hall⟩, rfl⟩
      exact ⟨g a, _, ⟨ha, rfl⟩, ih.mpr ⟨hall, rfl⟩, rfl⟩

theorem mapM_congr {f g : α → Except ε β} {as : List α} (h : ∀ a ∈ as, f a = g a) :
    as.mapM f = as.mapM g := by
  induction as with
  | nil => rfl
  | cons a rest ih =>
    obtain ⟨ha, hrest⟩ := List.forall_mem_cons.mp h
    rw [List.mapM_cons, List.mapM_cons, ha, ih hrest]

/-- Two ways to take the steps, with the same results, are the same on every step. -/
theorem exists_ok_of_mapM_eq_ok {f g : α → Except ε β} {as : List α} {bs : List β}
    (hf : as.mapM f = .ok bs) (hg : as.mapM g = .ok bs) :
    ∀ a ∈ as, ∃ b, f a = .ok b ∧ g a = .ok b := by
  have hsteps := mapM_eq_ok_iff.mp hf
  have hsteps' := mapM_eq_ok_iff.mp hg
  clear hf hg
  induction hsteps with
  | nil => simp
  | cons hstep _ ih =>
    cases hsteps' with
    | cons hstep' hrest => exact List.forall_mem_cons.mpr ⟨⟨_, hstep, hstep'⟩, ih hrest⟩

theorem exists_of_mem_mapM {f : α → Except ε β} {as : List α} {bs : List β}
    (h : as.mapM f = .ok bs) (hb : b ∈ bs) : ∃ a ∈ as, f a = .ok b := by
  have hsteps := mapM_eq_ok_iff.mp h
  clear h
  induction hsteps with
  | nil => cases hb
  | cons hstep _ ih =>
    rcases List.mem_cons.mp hb with rfl | hb
    · exact ⟨_, List.mem_cons_self, hstep⟩
    · obtain ⟨a, ha, hfa⟩ := ih hb
      exact ⟨a, List.mem_cons_of_mem _ ha, hfa⟩

theorem mapM_eq_error_iff {f : α → Except ε β} {as : List α} {e : ε} :
    as.mapM f = .error e ↔ ∃ before a after,
      as = before ++ a :: after ∧ (∀ x ∈ before, ∃ b, f x = .ok b) ∧ f a = .error e := by
  induction as with
  | nil => simp [pure, Except.pure]
  | cons a rest ih =>
    rw [List.mapM_cons, bind_eq_error_iff]
    constructor
    · rintro (ha | ⟨b, hb, hrest⟩)
      · exact ⟨[], a, rest, rfl, by simp, ha⟩
      · have hlater : rest.mapM f = .error e := by
          rcases bind_eq_error_iff.mp hrest with hlater | ⟨bs, -, hpure⟩
          · exact hlater
          · cases hpure
        obtain ⟨before, a', after, rfl, hbefore, ha'⟩ := ih.mp hlater
        refine ⟨a :: before, a', after, rfl, ?_, ha'⟩
        exact List.forall_mem_cons.mpr ⟨⟨b, hb⟩, hbefore⟩
    · rintro ⟨before, a', after, hsplit, hbefore, ha'⟩
      cases before with
      | nil =>
        obtain ⟨rfl, rfl⟩ := List.cons.inj hsplit
        exact .inl ha'
      | cons first before =>
        obtain ⟨rfl, rfl⟩ := List.cons.inj hsplit
        obtain ⟨⟨b, hb⟩, hbefore⟩ := List.forall_mem_cons.mp hbefore
        have hlater := ih.mpr ⟨before, a', after, rfl, hbefore, ha'⟩
        exact .inr ⟨b, hb, bind_eq_error_iff.mpr (.inl hlater)⟩

theorem exists_mapM_eq_ok {f : α → Except ε β} {as : List α} (h : ∀ a ∈ as, ∃ b, f a = .ok b) :
    ∃ bs, as.mapM f = .ok bs := by
  induction as with
  | nil => exact ⟨[], rfl⟩
  | cons a rest ih =>
    obtain ⟨b, hb⟩ := h a (by simp)
    obtain ⟨found, hfound⟩ := ih fun a' ha' => h a' (by simp [ha'])
    exact ⟨b :: found, mapM_eq_ok_iff.mpr (.cons hb (mapM_eq_ok_iff.mp hfound))⟩

theorem exists_first {P : α → Prop} {as : List α} (h : ¬ ∀ a ∈ as, P a) :
    ∃ before a after, as = before ++ a :: after ∧ (∀ x ∈ before, P x) ∧ ¬ P a := by
  induction as with
  | nil => simp at h
  | cons first rest ih =>
    by_cases hfirst : P first
    · have hrest : ¬ ∀ a ∈ rest, P a := fun hall => h (List.forall_mem_cons.mpr ⟨hfirst, hall⟩)
      obtain ⟨before, a, after, rfl, hbefore, ha⟩ := ih hrest
      exact ⟨first :: before, a, after, rfl, List.forall_mem_cons.mpr ⟨hfirst, hbefore⟩, ha⟩
    · exact ⟨[], first, rest, rfl, by simp, hfirst⟩

theorem isSome_mapM (f : α → Option β) (as : List α) :
    (as.mapM f).isSome = as.all fun a => (f a).isSome := by
  induction as with
  | nil => rfl
  | cons a rest ih =>
    rw [List.mapM_cons, List.all_cons, ← ih]
    cases f a with
    | none => rfl
    | some b => cases rest.mapM f <;> rfl

theorem mapM_eq_some_iff {f : α → Option β} {as : List α} {bs : List β} :
    as.mapM f = some bs ↔ List.Forall₂ (fun a b => f a = some b) as bs := by
  induction as generalizing bs with
  | nil => cases bs <;> simp
  | cons a rest ih =>
    simp only [List.mapM_cons, Option.bind_eq_bind, Option.bind_eq_some_iff, ih,
      List.forall₂_cons_left_iff, Option.pure_def, Option.some.injEq, exists_and_left,
      eq_comm (b := bs)]

/-- Both fail with one error, or both succeed with related results. -/
inductive Agree {ε α β : Type} (P : α → β → Prop) : Except ε α → Except ε β → Prop
  | error (e : ε) : Agree P (.error e) (.error e)
  | ok {a : α} {b : β} (h : P a b) : Agree P (.ok a) (.ok b)

namespace Agree

variable {γ δ : Type} {P P' : α → β → Prop} {Q : γ → δ → Prop}

theorem error_iff {x : Except ε α} {y : Except ε β} (hxy : Agree P x y) {e : ε} :
    x = .error e ↔ y = .error e := by
  cases hxy with
  | error e' => rw [Except.error.injEq, Except.error.injEq]
  | ok hab => exact ⟨nofun, nofun⟩

theorem imp {x : Except ε α} {y : Except ε β} (hxy : Agree P x y)
    (h : ∀ a b, P a b → P' a b) : Agree P' x y := by
  cases hxy with
  | error e => exact .error e
  | ok hab => exact .ok (h _ _ hab)

theorem bind {x : Except ε α} {y : Except ε β} {f : α → Except ε γ} {g : β → Except ε δ}
    (hxy : Agree P x y) (hfg : ∀ a b, P a b → Agree Q (f a) (g b)) :
    Agree Q (x >>= f) (y >>= g) := by
  cases hxy with
  | error e => exact .error e
  | ok hab => exact hfg _ _ hab

theorem map {x : Except ε α} {y : Except ε β} {f : α → γ} {g : β → δ} (hxy : Agree P x y)
    (hfg : ∀ a b, P a b → Q (f a) (g b)) : Agree Q (x.map f) (y.map g) := by
  cases hxy with
  | error e => exact .error e
  | ok hab => exact .ok (hfg _ _ hab)

theorem mapError {x : Except ε α} {y : Except ε β} (f : ε → ε') (hxy : Agree P x y) :
    Agree P (x.mapError f) (y.mapError f) := by
  cases hxy with
  | error e => exact .error (f e)
  | ok hab => exact .ok hab

theorem of_eq {P : α → α → Prop} (h : ∀ a, P a a) (x : Except ε α) : Agree P x x := by
  cases x with
  | error e => exact .error e
  | ok a => exact .ok (h a)

theorem and_left {x : Except ε α} {y : Except ε β} {Q : α → Prop} (hxy : Agree P x y)
    (h : ∀ a, x = .ok a → Q a) : Agree (fun a b => Q a ∧ P a b) x y := by
  cases hxy with
  | error e => exact .error e
  | ok hab => exact .ok ⟨h _ rfl, hab⟩

theorem mapM {as : List α} {f : α → Except ε γ} {g : α → Except ε δ}
    (h : ∀ a ∈ as, Agree Q (f a) (g a)) : Agree (List.Forall₂ Q) (as.mapM f) (as.mapM g) := by
  induction as with
  | nil => exact .ok .nil
  | cons a rest ih =>
    have hrest := ih fun a' ha' => h a' (by simp [ha'])
    rw [List.mapM_cons, List.mapM_cons]
    apply (h a (by simp)).bind
    intro c d hcd
    apply hrest.bind
    intro cs ds hcds
    exact .ok (.cons hcd hcds)

end Agree

end SceneBook
