import SceneBook.Value.Basic

/-!
# Collections among values

A list or a mapping may be a knot. Undone, it has the parts that its body has, and so is true
exactly if there are any.
-/

namespace SceneBook.Value

variable {v : Value} {es : Entries Value} {vs : List Value}

/-- A label alone is no collection, not even one that stands for itself. -/
theorem opened_knot_back (l l' : Nat) (isMap : Bool) :
    (knot l (.back l' isMap)).opened =
      if l' = l then knot l (.back l' isMap) else .back l' isMap := by
  rw [opened, loosen]
  by_cases hl : l' = l
  · rw [if_pos hl, if_pos hl]
    rfl
  · rw [if_neg hl, if_neg hl]

theorem map?_eq_some (h : v.map? = some es) :
    v = .map es ∨ ∃ l bs, v = .knot l (.map bs) ∧ es = loosenEntries l v [] bs := by
  cases v with
  | map bs =>
    cases h
    exact .inl rfl
  | knot l b =>
    cases b with
    | map bs =>
      cases h
      exact .inr ⟨l, bs, rfl, rfl⟩
    | back l' isMap =>
      rw [map?, opened_knot_back] at h
      by_cases hl : l' = l
      · rw [if_pos hl] at h
        cases h
      · rw [if_neg hl] at h
        cases h
    | _ => cases h
  | _ => cases h

private theorem list?_eq_some (h : v.list? = some vs) :
    v = .list vs ∨ ∃ l bs, v = .knot l (.list bs) ∧ vs = loosenItems l v [] bs := by
  cases v with
  | list bs =>
    cases h
    exact .inl rfl
  | knot l b =>
    cases b with
    | list bs =>
      cases h
      exact .inr ⟨l, bs, rfl, rfl⟩
    | back l' isMap =>
      rw [list?, opened_knot_back] at h
      by_cases hl : l' = l
      · rw [if_pos hl] at h
        cases h
      · rw [if_neg hl] at h
        cases h
    | _ => cases h
  | _ => cases h

theorem isTruthy_of_map? (h : v.map? = some es) : v.isTruthy = !es.isEmpty := by
  obtain rfl | ⟨l, bs, rfl, rfl⟩ := map?_eq_some h
  · rfl
  · cases bs <;> rfl

theorem isTruthy_of_list? (h : v.list? = some vs) : v.isTruthy = !vs.isEmpty := by
  obtain rfl | ⟨l, bs, rfl, rfl⟩ := list?_eq_some h
  · rfl
  · cases bs <;> rfl

end SceneBook.Value
