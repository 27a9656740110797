import SceneBook.Proofs.Text.Join
import Mathlib.Data.List.DropRight

/-!
# Lines

A text is read line by line. One that was put together from lines has these lines, whatever follows
them, and what is put on the end of a text without a line feed goes on with its last line.
-/

namespace SceneBook.Text

def lineFeed : CodePoint := .scalar '\n'

def lines (t : Text) : List Text := fields lineFeed t

def unlines (ls : List Text) : Text := ls.flatMap fun l => l ++ "\n"

def lastLine (t : Text) : Text := t.rtakeWhile fun c => c ≠ lineFeed

variable {sep : CodePoint} {a b t : Text} {ls ts : List Text}

theorem fields_ne_nil (sep : CodePoint) (t : Text) : fields sep t ≠ [] := by
  cases t with
  | nil => simp [fields]
  | cons c cs =>
    rw [fields]
    split
    · simp
    · split <;> simp

theorem fields_of_not_mem (h : sep ∉ t) : fields sep t = [t] := by
  induction t with
  | nil => rfl
  | cons c cs ih =>
    have hc : c ≠ sep := fun heq => h (by simp [heq])
    have hcs : sep ∉ cs := fun hmem => h (by simp [hmem])
    rw [fields, if_neg hc, ih hcs]

private theorem fields_append_cons (sep : CodePoint) (a b : Text) :
    fields sep (a ++ sep :: b) = fields sep a ++ fields sep b := by
  induction a with
  | nil => simp [fields]
  | cons c cs ih =>
    by_cases hc : c = sep
    · simp [fields, hc, ih]
    · obtain ⟨f, fs, hcs⟩ := List.exists_cons_of_ne_nil (fields_ne_nil sep cs)
      simp [fields, hc, ih, hcs]

private theorem lines_append_lineFeed (a b : Text) :
    lines (a ++ "\n" ++ b) = lines a ++ lines b := by
  rw [List.append_assoc]
  exact fields_append_cons lineFeed a b

theorem unlines_append (ls ts : List Text) : unlines (ls ++ ts) = unlines ls ++ unlines ts :=
  List.flatMap_append

theorem unlines_cons (l : Text) (ls : List Text) :
    unlines (l :: ls) = l ++ "\n" ++ unlines ls := rfl

private theorem unlines_eq_nil_iff : unlines ls = [] ↔ ls = [] := by
  have hfeed : ("\n" : Text) ≠ [] := by decide
  cases ls with
  | nil => simp [unlines]
  | cons l rest => simp [unlines, hfeed]

theorem lines_unlines_append (ls : List Text) (t : Text) :
    lines (unlines ls ++ t) = ls.flatMap lines ++ lines t := by
  induction ls with
  | nil => rfl
  | cons l rest ih =>
    rw [unlines_cons, List.append_assoc, lines_append_lineFeed, ih, List.flatMap_cons,
      List.append_assoc]

theorem flatMap_lines (h : ∀ l ∈ ls, lineFeed ∉ l) : ls.flatMap lines = ls := by
  induction ls with
  | nil => rfl
  | cons l rest ih =>
    have hl : lines l = [l] := fields_of_not_mem (h l (by simp))
    have hrest : rest.flatMap lines = rest := ih fun r hr => h r (by simp [hr])
    rw [List.flatMap_cons, hl, hrest]
    rfl

theorem join_append_lineFeed (h : ts ≠ []) : join "\n" ts ++ "\n" = unlines ts := by
  induction ts with
  | nil => exact absurd rfl h
  | cons t rest ih =>
    by_cases hrest : rest = []
    · subst rest
      simp [join, unlines]
    · rw [join_cons _ _ hrest, List.append_assoc, ih hrest, unlines_cons]

theorem unlines_eq_of_join_eq {us : List Text} (hts : ts ≠ []) (hus : us ≠ [])
    (h : join "\n" ts = join "\n" us) : unlines ts = unlines us := by
  rw [← join_append_lineFeed hts, ← join_append_lineFeed hus, h]

section Counts

variable {n : Nat} {us : List Text}

private theorem unlines_inj_of_count (hts : ∀ t ∈ ts, t.count lineFeed = n)
    (hus : ∀ u ∈ us, u.count lineFeed = n) (h : unlines ts = unlines us) : ts = us := by
  induction ts generalizing us with
  | nil => exact (unlines_eq_nil_iff.mp h.symm).symm
  | cons t rest ih =>
    cases us with
    | nil => exact unlines_eq_nil_iff.mp h
    | cons u rest' =>
      obtain ⟨ht, hrest⟩ := List.forall_mem_cons.mp hts
      obtain ⟨hu, hrest'⟩ := List.forall_mem_cons.mp hus
      rw [unlines_cons, unlines_cons, List.append_assoc, List.append_assoc] at h
      obtain ⟨rfl, htail⟩ := append_cons_inj_of_count (ht.trans hu.symm) h
      rw [ih hrest hrest' htail]

private theorem join_inj_of_count (hts : ∀ t ∈ ts, t ≠ [] ∧ t.count lineFeed = n)
    (hus : ∀ u ∈ us, u ≠ [] ∧ u.count lineFeed = n) (h : join "\n" ts = join "\n" us) :
    ts = us := by
  have hts' := join_eq_nil_iff "\n" fun t ht => (hts t ht).1
  have hus' := join_eq_nil_iff "\n" fun u hu => (hus u hu).1
  by_cases hnil : ts = []
  · subst ts
    exact (hus'.mp h.symm).symm
  · have hnil' : us ≠ [] := by rwa [← hts', h, hus'] at hnil
    apply unlines_inj_of_count
    · exact fun t ht => (hts t ht).2
    · exact fun u hu => (hus u hu).2
    · exact unlines_eq_of_join_eq hnil hnil' h

theorem map_inj_of_join_eq {α : Type} {f : α → Text} (hf : Function.Injective f) {xs ys : List α}
    (hxs : ∀ x ∈ xs, f x ≠ [] ∧ (f x).count lineFeed = n)
    (hys : ∀ y ∈ ys, f y ≠ [] ∧ (f y).count lineFeed = n)
    (h : join "\n" (xs.map f) = join "\n" (ys.map f)) : xs = ys := by
  apply List.map_injective_iff.mpr hf
  apply join_inj_of_count
  · exact List.forall_mem_map.mpr hxs
  · exact List.forall_mem_map.mpr hys
  · exact h

end Counts

theorem lines_join (h : ts ≠ []) : lines (join "\n" ts) = ts.flatMap lines := by
  have hjoin := congrArg (fun t => lines (t ++ [])) (join_append_lineFeed h)
  simp only [lines_append_lineFeed, lines_unlines_append] at hjoin
  exact List.append_cancel_right hjoin

theorem length_lines (t : Text) : (lines t).length = t.count lineFeed + 1 := by
  induction t with
  | nil => rfl
  | cons c cs ih =>
    by_cases hc : c = lineFeed
    · subst hc
      have hlines : lines (lineFeed :: cs) = [] :: lines cs := fields_append_cons lineFeed [] cs
      rw [hlines, List.length_cons, ih, List.count_cons_self]
    · obtain ⟨f, fs, hcs⟩ := List.exists_cons_of_ne_nil (fields_ne_nil lineFeed cs)
      have hlines : lines (c :: cs) = (c :: f) :: fs := by rw [lines, fields, if_neg hc, hcs]
      have hlength : (lines cs).length = fs.length + 1 := congrArg List.length hcs
      rw [hlines, List.length_cons, ← hlength, ih, List.count_cons_of_ne hc]

theorem lastLine_append_of_not_mem (a : Text) (h : lineFeed ∉ b) :
    lastLine (a ++ b) = lastLine a ++ b := by
  have hb : ∀ c ∈ b.reverse, decide (c ≠ lineFeed) = true := by
    intro c hc
    exact decide_eq_true fun heq => h (heq ▸ List.mem_reverse.mp hc)
  simp only [lastLine, List.rtakeWhile, List.reverse_append]
  rw [List.takeWhile_append_of_pos hb, List.reverse_append, List.reverse_reverse]

private theorem lastLine_append_cons (a : Text) (h : lineFeed ∉ b) :
    lastLine (a ++ lineFeed :: b) = b := by
  have hnil : lastLine (a ++ [lineFeed]) = [] := List.rtakeWhile_concat_neg _ _ _ (by simp)
  rw [List.append_cons, lastLine_append_of_not_mem _ h, hnil, List.nil_append]

theorem lastLine_of_not_mem (h : lineFeed ∉ t) : lastLine t = t :=
  lastLine_append_of_not_mem [] h

private theorem exists_eq_append_lastLine (h : lineFeed ∈ t) :
    ∃ above, t = above ++ lineFeed :: lastLine t ∧ lineFeed ∉ lastLine t := by
  obtain ⟨after, before, hreverse, hafter⟩ :=
    List.eq_append_cons_of_mem (List.mem_reverse.mpr h)
  have ht : t = before.reverse ++ lineFeed :: after.reverse := by
    simpa using congrArg List.reverse hreverse
  have hlast : lineFeed ∉ after.reverse := fun hmem => hafter (List.mem_reverse.mp hmem)
  have hline : lastLine t = after.reverse := by
    rw [ht]
    exact lastLine_append_cons before.reverse hlast
  exact ⟨before.reverse, by rw [hline]; exact ht, by rw [hline]; exact hlast⟩

theorem lastLine_append_of_mem (a : Text) (h : lineFeed ∈ b) : lastLine (a ++ b) = lastLine b := by
  obtain ⟨above, hb, hlast⟩ := exists_eq_append_lastLine h
  rw [hb, ← List.append_assoc, lastLine_append_cons _ hlast, lastLine_append_cons _ hlast]

theorem getLast?_lines (t : Text) : (lines t).getLast? = some (lastLine t) := by
  by_cases h : lineFeed ∈ t
  · obtain ⟨above, ht, hlast⟩ := exists_eq_append_lastLine h
    have hlines : lines t = lines above ++ [lastLine t] := by
      rw [ht, lines, fields_append_cons, ← ht, fields_of_not_mem hlast]
      rfl
    rw [hlines, List.getLast?_concat]
  · have hlines : lines t = [t] := fields_of_not_mem h
    rw [hlines, lastLine_of_not_mem h]
    rfl

end SceneBook.Text
