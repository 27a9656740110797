import SceneBook.Value.Basic

/-!
# Equality of values

Values can be told apart part by part, and so what is read or written can be compared with what it
should be.
-/

namespace SceneBook.Value

mutual

/-- Whether two values have the same parts. Unlike keys, a one is no true and no `1.0`. -/
def beq : Value → Value → Bool
  | .scalar a, .scalar b => a = b
  | .list a, .list b => beqItems a b
  | .tuple a, .tuple b => beqItems a b
  | .set a, .set b => a = b
  | .map a, .map b => beqEntries a b
  | .knot l a, .knot m b => l = m && beq a b
  | .back l isMap, .back m isMap' => l = m && isMap = isMap'
  | _, _ => false

def beqItems : List Value → List Value → Bool
  | [], [] => true
  | a :: as, b :: bs => beq a b && beqItems as bs
  | _, _ => false

def beqEntries : List (Scalar × Value) → List (Scalar × Value) → Bool
  | [], [] => true
  | (j, a) :: as, (k, b) :: bs => (j = k && beq a b) && beqEntries as bs
  | _, _ => false

end

mutual

private theorem beq_self : (v : Value) → beq v v = true
  | .scalar _ => by simp [beq]
  | .list items => beqItems_self items
  | .tuple items => beqItems_self items
  | .set _ => by simp [beq]
  | .map es => beqEntries_self es
  | .knot _ body => by simp [beq, beq_self body]
  | .back _ _ => by simp [beq]

private theorem beqItems_self : (vs : List Value) → beqItems vs vs = true
  | [] => rfl
  | v :: vs => by simp [beqItems, beq_self v, beqItems_self vs]

private theorem beqEntries_self : (es : List (Scalar × Value)) → beqEntries es es = true
  | [] => rfl
  | (_, v) :: es => by simp [beqEntries, beq_self v, beqEntries_self es]

end

mutual

private theorem eq_of_beq : (v w : Value) → beq v w = true → v = w
  | .scalar a, w, h => by cases w <;> simp_all [beq]
  | .list items, w, h => by
    cases w with
    | list ws => rw [eq_of_beqItems items ws h]
    | _ => cases h
  | .tuple items, w, h => by
    cases w with
    | tuple ws => rw [eq_of_beqItems items ws h]
    | _ => cases h
  | .set ks, w, h => by cases w <;> simp_all [beq]
  | .map es, w, h => by
    cases w with
    | map fs => rw [eq_of_beqEntries es fs h]
    | _ => cases h
  | .knot l body, w, h => by
    cases w with
    | knot m body' =>
      simp only [beq, Bool.and_eq_true, decide_eq_true_eq] at h
      rw [h.1, eq_of_beq body body' h.2]
    | _ => cases h
  | .back l isMap, w, h => by cases w <;> simp_all [beq]

private theorem eq_of_beqItems : (vs ws : List Value) → beqItems vs ws = true → vs = ws
  | [], [], _ => rfl
  | v :: vs, w :: ws, h => by
    simp only [beqItems, Bool.and_eq_true] at h
    rw [eq_of_beq v w h.1, eq_of_beqItems vs ws h.2]

private theorem eq_of_beqEntries :
    (es fs : List (Scalar × Value)) → beqEntries es fs = true → es = fs
  | [], [], _ => rfl
  | (j, v) :: es, (k, w) :: fs, h => by
    simp only [beqEntries, Bool.and_eq_true, decide_eq_true_eq] at h
    rw [h.1.1, eq_of_beq v w h.1.2, eq_of_beqEntries es fs h.2]

end

instance : DecidableEq Value := fun v w =>
  decidable_of_iff (beq v w = true) ⟨eq_of_beq v w, fun h => h ▸ beq_self v⟩

end SceneBook.Value
