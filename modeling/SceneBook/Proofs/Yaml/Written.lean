import SceneBook.Proofs.Text.Storable
import SceneBook.Yaml.Writing

/-!
# Characters of written YAML

Whatever a text holds, only characters are written for it: what is neither a line feed nor printable
ASCII is escaped, lone surrogates among it. So what is written for texts can always be stored.
-/

namespace SceneBook.Yaml

private theorem isPrintableAscii_surrogate (s : Surrogate) :
    Traits.isPrintableAscii (.surrogate s) = false := by
  have hcode : ¬ s.code ≤ 0x7E := by
    have hrange := s.inRange
    omega
  simp [Traits.isPrintableAscii, CodePoint.code, hcode]

private theorem isStorable_of_not_special {t : Text} (h : (Traits.of t).special = false) :
    t.isStorable = true := by
  rw [Text.isStorable_iff]
  intro s hs
  have hplain := List.any_eq_false.mp h _ hs
  simp [isPrintableAscii_surrogate] at hplain

namespace Pen

variable {p : Pen} {t run : Text} {rs : List Text}

private theorem flatten_runs (class' : CodePoint → Nat) (t : Text) :
    (runs class' t).flatten = t := by
  induction t with
  | nil => rfl
  | cons c rest ih =>
    rw [runs]
    split
    · next d ds more hruns =>
      rw [hruns] at ih
      split <;> simp [← ih]
    · simp [ih]

private theorem isStorable_of_mem_runs {class' : CodePoint → Nat} (ht : t.isStorable = true) :
    ∀ r ∈ runs class' t, r.isStorable = true := by
  intro r hr
  rw [Text.isStorable_iff] at ht ⊢
  intro s hs
  refine ht s ?_
  rw [← flatten_runs class' t]
  exact List.mem_flatten_of_mem hr hs

private theorem isStorable_reverse (t : Text) : Text.isStorable t.reverse = t.isStorable :=
  List.all_reverse

private theorem isStorable_flatMap {f : CodePoint → Text} (h : ∀ c ∈ t, (f c).isStorable = true) :
    Text.isStorable (t.flatMap f) = true := by
  rw [Text.isStorable, List.all_flatMap, List.all_eq_true]
  exact h

private theorem isStorable_singleton {c : CodePoint} (ht : t.isStorable = true) (hc : c ∈ t) :
    Text.isStorable [c] = true := by
  rw [Text.isStorable, List.all_cons, List.all_nil, Bool.and_true]
  exact List.all_eq_true.mp ht c hc

private theorem isStorable_doubledQuotes (ht : t.isStorable = true) :
    (doubledQuotes t).isStorable = true := by
  refine isStorable_flatMap fun c hc => ?_
  split
  · rfl
  · exact isStorable_singleton ht hc

@[simp] theorem isStorable_upperHex (width n : Nat) : (upperHex width n).isStorable = true := by
  simp [Text.isStorable, upperHex, Text.hex, Text.hexDigit, CodePoint.isSurrogate]

@[simp] theorem isStorable_escaped (c : CodePoint) : (escaped c).isStorable = true := by
  unfold escaped
  split
  · rfl
  · split_ifs <;> simp

private theorem isStorable_floatText (d : Double) : (floatText d).isStorable = true := by
  have htext : d.text.isStorable = true := Text.isStorable_ofChars _
  unfold floatText
  dsimp only
  split
  · rfl
  · split <;> rfl
  · split
    · refine isStorable_flatMap fun c hc => ?_
      split
      · rfl
      · exact isStorable_singleton htext hc
    · exact htext

@[simp] theorem isStorable_padded (width n : Nat) : (Text.padded width n).isStorable = true := by
  have hdigits : (Text.ofNat n).isStorable = true := Text.isStorable_ofChars _
  simp only [Text.padded, Text.isStorable_append, hdigits, Bool.and_true]
  simp [Text.isStorable, CodePoint.isSurrogate]

private theorem isStorable_date (d : Date) : d.text.isStorable = true := by
  simp [Date.text]

private theorem isStorable_instant (i : Instant) : (i.text ' ').isStorable = true := by
  have hoffset : (Instant.offsetText i.offset).isStorable = true := by
    cases i.offset with
    | none => rfl
    | some m =>
      change Text.isStorable (Text.padded 2 (m.natAbs / 60) ++ ":" ++ Text.padded 2 (m.natAbs % 60))
        = true
      simp
  have hfraction :
      (if i.micro = 0 then [] else "." ++ Text.padded 6 i.micro : Text).isStorable = true := by
    split
    · rfl
    · simp
  have hseparator : Text.isStorable [.scalar ' '] = true := rfl
  rw [Instant.text]
  simp only [Text.isStorable_append, isStorable_date, isStorable_padded, Text.isStorable_ofString,
    hoffset, hfraction, hseparator, Bool.and_true]

private theorem isStorable_cons_of_not_escaped {c : CodePoint} (hc : needsEscape c = false)
    (hrun : run.isStorable = true) : Text.isStorable (c :: run) = true := by
  have hprintable : Traits.isPrintableAscii c = true := by
    simp only [needsEscape, Bool.or_eq_false_iff, Bool.not_eq_false'] at hc
    exact hc.2
  cases c with
  | scalar d => exact hrun
  | surrogate s =>
    rw [isPrintableAscii_surrogate] at hprintable
    cases hprintable

def Storable (p : Pen) : Prop := p.written.isStorable = true

namespace Storable

private theorem write (hp : p.Storable) (ht : t.isStorable = true) : (p.write t).Storable := by
  rw [Storable, Pen.write, Text.isStorable_append, isStorable_reverse, ht]
  exact hp

private theorem lineBreak (hp : p.Storable) : p.lineBreak.Storable := hp

private theorem indent (hp : p.Storable) (depth : Nat) : (p.indent depth).Storable := by
  have hstart (q : Pen) (hq : q.Storable) : (if q.column < depth then
      { q.write (List.replicate (depth - q.column) (.scalar ' ')) with spaced := true }
      else q).Storable := by
    split
    · exact hq.write (by simp [Text.isStorable, CodePoint.isSurrogate])
    · exact hq
  unfold Pen.indent
  refine hstart _ ?_
  split
  · exact hp.lineBreak
  · exact hp

private theorem mark (hp : p.Storable) (ht : t.isStorable = true) (needsSpace keepsIndent : Bool) :
    (p.mark t needsSpace keepsIndent).Storable := by
  unfold Pen.mark
  change Storable (if p.spaced || !needsSpace then p.write t else p.write (.scalar ' ' :: t))
  split
  · exact hp.write ht
  · exact hp.write ht

private theorem plainRuns (hp : p.Storable) (depth : Nat) (fold : Bool)
    (hrs : ∀ r ∈ rs, r.isStorable = true) : (plainRuns depth fold p rs).Storable := by
  induction rs generalizing p with
  | nil => exact hp
  | cons r rest ih =>
    obtain ⟨hr, hrest⟩ := List.forall_mem_cons.mp hrs
    rw [Pen.plainRuns]
    split
    · exact ih (p := { p.indent depth with spaced := false, indented := false })
        (hp.indent depth) hrest
    · exact ih (hp.write hr) hrest

private theorem plain (hp : p.Storable) (depth : Nat) (fold : Bool) (ht : t.isStorable = true) :
    (p.plain depth fold t).Storable := by
  have hspace : (if p.spaced then p else p.write " ").Storable := by
    split
    · exact hp
    · exact hp.write rfl
  exact plainRuns (p := { (if p.spaced then p else p.write " ") with
    spaced := false, indented := false }) hspace depth fold (isStorable_of_mem_runs ht)

private theorem lineBreaks (hp : p.Storable) (n : Nat) : (lineBreaks n p).Storable := by
  induction n generalizing p with
  | zero => exact hp
  | succ n ih => exact ih hp.lineBreak

private theorem singleRuns (hp : p.Storable) (depth : Nat) (fold first : Bool)
    (hrs : ∀ r ∈ rs, r.isStorable = true) : (singleRuns depth fold p first rs).Storable := by
  induction rs generalizing p first with
  | nil => exact hp
  | cons r rest ih =>
    obtain ⟨hr, hrest⟩ := List.forall_mem_cons.mp hrs
    rw [Pen.singleRuns]
    refine ih ?_ _ hrest
    split_ifs
    · exact (hp.lineBreaks _).indent depth
    · exact hp.indent depth
    · exact hp.write (isStorable_doubledQuotes hr)

private theorem single (hp : p.Storable) (depth : Nat) (fold : Bool) (ht : t.isStorable = true) :
    (p.single depth fold t).Storable :=
  ((hp.mark rfl true false).singleRuns depth fold true (isStorable_of_mem_runs ht)).mark
    rfl false false

private theorem doubleFold (hp : p.Storable) (depth : Nat) (hrun : run.isStorable = true)
    (next : Option CodePoint) : (p.doubleFold depth run next).Storable := by
  have hwritten : (p.write (run.reverse ++ [.scalar '\\'])).Storable := by
    refine hp.write ?_
    rw [Text.isStorable_append, isStorable_reverse, hrun]
    rfl
  unfold Pen.doubleFold
  dsimp only
  split
  · exact write (p := { (p.write _).indent depth with spaced := false, indented := false })
      (hwritten.indent depth) rfl
  · exact hwritten.indent depth

private theorem doublePoints (hp : p.Storable) (depth : Nat) (fold atStart : Bool)
    (hrun : run.isStorable = true) (t : Text) :
    (doublePoints depth fold p run atStart t).Storable := by
  have hwrite {p : Pen} {run : Text} (hp : p.Storable) (hrun : run.isStorable = true) :
      (p.write run.reverse).Storable := hp.write ((isStorable_reverse run).trans hrun)
  induction t generalizing p run atStart with
  | nil => exact hwrite hp hrun
  | cons c rest ih =>
    have hescaped := (hwrite hp hrun).write (isStorable_escaped c)
    rw [Pen.doublePoints]
    dsimp only
    split_ifs with hescape
    · exact ih (hescaped.doubleFold depth rfl _) _ rfl
    · exact ih hescaped _ rfl
    · exact ih (hp.doubleFold depth hrun _) _
        (isStorable_cons_of_not_escaped (eq_false_of_ne_true hescape) rfl)
    · exact ih hp _ (isStorable_cons_of_not_escaped (eq_false_of_ne_true hescape) hrun)

private theorem double (hp : p.Storable) (depth : Nat) (fold : Bool) (t : Text) :
    (p.double depth fold t).Storable :=
  ((hp.mark rfl true false).doublePoints depth fold true rfl t).mark rfl false false

/-- A text without quotes or in single quotes has nothing special in it. -/
theorem text (hp : p.Storable) (depth : Nat) (asKey : Bool) (t : Text) :
    (p.text depth asKey t).Storable := by
  have hplain (h : (Traits.of t).allowsPlain = true) : t.isStorable = true := by
    simp only [Traits.allowsPlain, Bool.and_eq_true, Bool.not_eq_true'] at h
    exact isStorable_of_not_special h.1.1.1.2
  have hsingle (h : (Traits.of t).allowsSingle = true) : t.isStorable = true := by
    simp only [Traits.allowsSingle, Bool.and_eq_true, Bool.not_eq_true'] at h
    exact isStorable_of_not_special h.1.1
  unfold Pen.text
  cases hstyle : styleOf asKey t with
  | plain =>
    unfold styleOf at hstyle
    dsimp only at hstyle
    split_ifs at hstyle with hstays
    exact hp.plain depth _ (hplain (Bool.and_eq_true_iff.mp hstays).2)
  | single =>
    unfold styleOf at hstyle
    dsimp only at hstyle
    split_ifs at hstyle with _ hstays
    exact hp.single depth _ (hsingle (Bool.and_eq_true_iff.mp hstays).1)
  | double => exact hp.double depth _ t

private theorem scalar (hp : p.Storable) (depth : Nat) (asKey : Bool) (a : Scalar) :
    (p.scalar depth asKey a).Storable := by
  cases a with
  | null => exact hp.plain depth false rfl
  | bool b => exact hp.plain depth false (by cases b <;> rfl)
  | int i => exact hp.plain depth false (Text.isStorable_ofInt i)
  | float d => exact hp.plain depth false (isStorable_floatText d)
  | text t => exact hp.text depth asKey t
  | date d => exact hp.plain depth false (isStorable_date d)
  | instant i => exact hp.plain depth _ (isStorable_instant i)
  | bytes bs => exact hp.text depth asKey _

mutual

private theorem value {p : Pen} (hp : p.Storable) (depth : Int) (afterColon : Bool) :
    (v : Value) → (p.value depth afterColon v).Storable
  | .scalar s => hp.scalar _ false s
  | .list [] | .tuple [] => (hp.mark rfl true false).mark rfl false false
  | .list (v :: vs) | .tuple (v :: vs) => hp.items _ (v :: vs)
  | .map [] => (hp.mark rfl true false).mark rfl false false
  | .map (e :: es) => hp.entries _ (e :: es)
  | .set _ | .knot .. | .back .. => hp.text _ false _

theorem items {p : Pen} (hp : p.Storable) (depth : Int) :
    (vs : List Value) → (p.items depth vs).Storable
  | [] => hp
  | v :: rest => (((hp.indent depth.toNat).mark rfl true true).value depth false v).items depth rest

theorem entries {p : Pen} (hp : p.Storable) (depth : Int) :
    (es : List (Scalar × Value)) → (p.entries depth es).Storable
  | [] => hp
  | (k, v) :: rest => by
    have hkey : (if isSimpleKey k then
        ((p.indent depth.toNat).scalar (depth + 2).toNat true k).mark ":" false false
        else ((((p.indent depth.toNat).mark "?" true true).scalar (depth + 2).toNat false k).indent
          depth.toNat).mark ":" true true).Storable := by
      split
      · exact ((hp.indent _).scalar _ true k).mark rfl false false
      · exact ((((hp.indent _).mark rfl true true).scalar _ false k).indent _).mark rfl true true
    exact (hkey.value depth true v).entries depth rest

end

end Storable

end Pen

theorem isStorable_write (v : Value) : (write v).isStorable = true := by
  rw [write, Pen.isStorable_reverse]
  exact (Pen.Storable.value (p := .start) rfl (-2) false (sorted v)).indent 0

end SceneBook.Yaml
