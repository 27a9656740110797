import SceneBook.Text.Blank
import SceneBook.Text.Word
import Mathlib.Data.List.TakeWhile

/-!
# Runs of a class

A text that begins with a run of characters of one class is cut where the run stops. No character
is both blank and part of a word, so that blanks and words in a row have one reading.
-/

namespace SceneBook

namespace Text

/-- Whether no character of a class is next: the text is at its end, or at another character. -/
def Stops (p : CodePoint → Bool) (t : Text) : Prop := ∀ c ∈ t.head?, p c = false

instance (p : CodePoint → Bool) (t : Text) : Decidable (Stops p t) :=
  inferInstanceAs (Decidable (∀ c ∈ t.head?, p c = false))

variable {p : CodePoint → Bool} {run rest : Text}

theorem stops_cons {c : CodePoint} : Stops p (c :: rest) ↔ p c = false := by simp [Stops]

theorem stops_append (hne : run ≠ []) : Stops p (run ++ rest) ↔ Stops p run := by
  cases run with
  | nil => exact absurd rfl hne
  | cons c cs => simp [Stops]

theorem stops_of_forall (h : ∀ c ∈ run, p c = false) : Stops p run :=
  fun c hc => h c (List.mem_of_head? hc)

theorem stops_dropWhile (p : CodePoint → Bool) (t : Text) : Stops p (t.dropWhile p) := by
  intro c hc
  have hhead := List.head?_dropWhile_not p t
  rwa [hc] at hhead

theorem takeWhile_eq_nil (h : Stops p rest) : rest.takeWhile p = [] := by
  cases rest with
  | nil => rfl
  | cons c cs => exact List.takeWhile_cons_of_neg (by simpa using stops_cons.mp h)

private theorem dropWhile_eq_self (h : Stops p rest) : rest.dropWhile p = rest := by
  cases rest with
  | nil => rfl
  | cons c cs => exact List.dropWhile_cons_of_neg (by simpa using stops_cons.mp h)

theorem takeWhile_run (hrun : ∀ c ∈ run, p c) (hrest : Stops p rest) :
    (run ++ rest).takeWhile p = run := by
  rw [List.takeWhile_append_of_pos hrun, takeWhile_eq_nil hrest, List.append_nil]

theorem dropWhile_run (hrun : ∀ c ∈ run, p c) (hrest : Stops p rest) :
    (run ++ rest).dropWhile p = rest := by
  rw [List.dropWhile_append_of_pos hrun, dropWhile_eq_self hrest]

/-- Runs that stop are told apart together with what comes after them. -/
theorem append_inj_of_stops {run' rest' : Text} (hrun : ∀ c ∈ run, p c) (hrun' : ∀ c ∈ run', p c)
    (hrest : Stops p rest) (hrest' : Stops p rest') (h : run ++ rest = run' ++ rest') :
    run = run' ∧ rest = rest' := by
  constructor
  · rw [← takeWhile_run hrun hrest, h, takeWhile_run hrun' hrest']
  · rw [← dropWhile_run hrun hrest, h, dropWhile_run hrun' hrest']

/-- Texts that have a character equally often before one of its places are told apart there. -/
theorem append_cons_inj_of_count {c : CodePoint} {a b rest rest' : Text}
    (hcount : a.count c = b.count c) (h : a ++ c :: rest = b ++ c :: rest') :
    a = b ∧ rest = rest' := by
  induction a generalizing b with
  | nil =>
    cases b with
    | nil => exact ⟨rfl, (List.cons.inj h).2⟩
    | cons x b =>
      obtain ⟨rfl, -⟩ := List.cons.inj h
      simp at hcount
  | cons y a ih =>
    cases b with
    | nil =>
      obtain ⟨rfl, -⟩ := List.cons.inj h
      simp at hcount
    | cons x b =>
      obtain ⟨rfl, htail⟩ := List.cons.inj h
      have hcount' : a.count c = b.count c := by simpa [List.count_cons] using hcount
      obtain ⟨rfl, hrest⟩ := ih hcount' htail
      exact ⟨rfl, hrest⟩

theorem dropPrefix?_eq_some_iff {p t rest : Text} :
    dropPrefix? p t = some rest ↔ t = p ++ rest := by
  induction p generalizing t with
  | nil => simp [dropPrefix?, eq_comm]
  | cons a as ih =>
    cases t with
    | nil => simp [dropPrefix?]
    | cons c cs =>
      by_cases h : a = c
      · simp [dropPrefix?, h, ih]
      · simp [dropPrefix?, h, Ne.symm h]

/-- A text cut at the first place of a character has the same cut when what follows a place of
that character is replaced. -/
theorem append_cons_eq_of_not_mem {c : CodePoint} {first rest before after : Text}
    (hc : c ∉ first) (h : first ++ c :: rest = before ++ c :: after) (after' : Text) :
    ∃ rest' : Text, before ++ c :: after' = first ++ c :: rest' := by
  rcases List.append_eq_append_iff.mp h with ⟨more, rfl, hmore⟩ | ⟨more, rfl, hmore⟩
  · cases more with
    | nil => exact ⟨after', by simp⟩
    | cons a as =>
      obtain ⟨rfl, -⟩ := List.cons.inj hmore
      exact ⟨as ++ c :: after', by simp⟩
  · cases more with
    | nil => exact ⟨after', by simp⟩
    | cons a as =>
      obtain ⟨rfl, -⟩ := List.cons.inj hmore
      simp at hc

theorem mem_of_inRanges {ranges : List (Nat × Nat)} {n : Nat} (h : inRanges ranges n) :
    ∃ r ∈ ranges, r.1 ≤ n ∧ n ≤ r.2 := by
  induction ranges with
  | nil => cases h
  | cons r rest ih =>
    obtain ⟨lo, hi⟩ := r
    rw [inRanges] at h
    split at h
    · cases h
    · next hlo =>
      split at h
      · next hhi => exact ⟨(lo, hi), List.mem_cons_self, Nat.le_of_not_lt hlo, hhi⟩
      · obtain ⟨r, hr, hn⟩ := ih h
        exact ⟨r, List.mem_cons_of_mem _ hr, hn⟩

private theorem blankRanges_apart_wordRanges :
    ∀ b ∈ blankRanges, ∀ w ∈ wordRanges, w.2 < b.1 ∨ b.2 < w.1 := by
  decide +kernel

end Text

/-- What holds of each ASCII character holds of every code point with so small a number. -/
theorem CodePoint.forall_ascii {P : CodePoint → Prop}
    (h : ∀ n < 128, P (.scalar (Char.ofNat n))) {c : CodePoint} (hc : c.code < 128) : P c := by
  cases c with
  | scalar a =>
    have ha := h a.toNat hc
    rwa [Char.ofNat_toNat] at ha
  | surrogate s =>
    have := s.inRange
    change s.code < 128 at hc
    omega

theorem CodePoint.isWord_of_isBlank {c : CodePoint} (h : c.isBlank) : c.isWord = false := by
  by_contra hword
  obtain ⟨b, hb, hblank⟩ := Text.mem_of_inRanges h
  obtain ⟨w, hw, hletter⟩ := Text.mem_of_inRanges ((Bool.not_eq_false _).mp hword)
  rcases Text.blankRanges_apart_wordRanges b hb w hw with hlt | hlt <;> omega

end SceneBook
