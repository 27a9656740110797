import SceneBook.Proofs.Import.Acceptance
import SceneBook.Proofs.Text.Join
import SceneBook.Settings.Basic

/-!
# Lines that tell imports apart

The line of an import whose names are words can be read in one way. Its first quote ends what is
bound, whatever the source looks like, and a word ends where the next blank, comma or brace begins.
So two such imports with one line have the same parts.
-/

namespace SceneBook

open ScriptLiteral
open Settings (isIdentifierPart)
open Text (Stops)

/-- A word of ASCII letters, digits, underscores and dollars. -/
def IsWord (t : Text) : Prop := t ≠ [] ∧ ∀ c ∈ t, isIdentifierPart c = true

instance (t : Text) : Decidable (IsWord t) :=
  inferInstanceAs (Decidable (t ≠ [] ∧ ∀ c ∈ t, isIdentifierPart c = true))

private theorem quote_not_mem_of_forall {t : Text} (h : ∀ c ∈ t, isIdentifierPart c = true) :
    quote ∉ t := by
  intro hquote
  have hpart := h quote hquote
  revert hpart
  decide

namespace Exposure

variable {e f : Exposure}

private theorem names_inj {ns ms : List Text} (hns : ∀ n ∈ ns, IsWord n) (hms : ∀ m ∈ ms, IsWord m)
    (h : namesText ns = namesText ms) : ns = ms := by
  have hjoin : Text.join ", " ns = Text.join ", " ms := by
    simpa [namesText] using h
  exact Text.join_inj_of_runs (by decide) (by decide) hns hms hjoin

private theorem bindings?_inj (he : ∀ n ∈ e.listed, IsWord n) (hf : ∀ n ∈ f.listed, IsWord n)
    (h : e.bindings? = f.bindings?) : e = f := by
  cases e with
  | nothing =>
    cases f with
    | nothing => rfl
    | everything => cases h
    | names ms => cases h
  | everything =>
    cases f with
    | nothing => cases h
    | everything => rfl
    | names ms => cases h
  | names ns =>
    cases f with
    | nothing => cases h
    | everything => cases h
    | names ms => exact congrArg names (names_inj he hf (Option.some.inj h))

private theorem quote_not_mem_bindings (he : ∀ n ∈ e.listed, IsWord n) :
    ∀ b ∈ e.bindings?, quote ∉ b := by
  intro b hb
  cases e with
  | nothing => cases hb
  | everything =>
    cases hb
    decide
  | names ns =>
    cases hb
    have hjoin : quote ∉ Text.join ", " ns := by
      intro hquote
      rcases Text.mem_of_mem_join hquote with hcomma | ⟨n, hn, hquote⟩
      · revert hcomma
        decide
      · exact quote_not_mem_of_forall (he n hn).2 hquote
    have hopen : quote ∉ ("\x7b " : Text) := by decide
    have hclose : quote ∉ (" \x7d" : Text) := by decide
    simp only [namesText, List.mem_append, hopen, hjoin, hclose, or_self, not_false_eq_true]

def afterDefault (e : Exposure) (default? : Option Text) : Text :=
  match e.bindings?, default? with
  | some b, some _ => ", " ++ b ++ " from "
  | some b, none => b ++ " from "
  | none, some _ => " from "
  | none, none => []

private theorem stops_afterDefault (e : Exposure) (default? : Option Text) :
    Stops isIdentifierPart (e.afterDefault default?) := by
  cases e with
  | nothing =>
    cases default? with
    | none => decide
    | some d => exact Text.stops_cons.mpr (by decide)
  | everything => cases default? <;> exact Text.stops_cons.mpr (by decide)
  | names ns => cases default? <;> exact Text.stops_cons.mpr (by decide)

private theorem bindings?_eq_of_afterDefault {default? : Option Text}
    (h : e.afterDefault default? = f.afterDefault default?) : e.bindings? = f.bindings? := by
  have hfrom : (" from " : Text) ≠ [] := by decide
  unfold afterDefault at h
  generalize e.bindings? = b? at h ⊢
  generalize f.bindings? = b?' at h ⊢
  cases b? with
  | none =>
    cases b?' with
    | none => rfl
    | some b =>
      cases default? with
      | none => exact absurd h.symm (List.append_ne_nil_of_right_ne_nil b hfrom)
      | some d => cases h
  | some b =>
    cases b?' with
    | none =>
      cases default? with
      | none => exact absurd h (List.append_ne_nil_of_right_ne_nil b hfrom)
      | some d => cases h
    | some b' =>
      cases default? with
      | none => exact congrArg some (List.append_cancel_right h)
      | some d => exact congrArg some (List.append_cancel_left (List.append_cancel_right h))

private theorem quote_not_mem_afterDefault (he : ∀ n ∈ e.listed, IsWord n)
    (default? : Option Text) :
    quote ∉ e.afterDefault default? := by
  have hbindings := quote_not_mem_bindings he
  have hcomma : quote ∉ (", " : Text) := by decide
  have hfrom : quote ∉ (" from " : Text) := by decide
  unfold afterDefault
  cases hb : e.bindings? with
  | none => cases default? <;> simp [hfrom]
  | some b => cases default? <;> simp [hcomma, hfrom, hbindings b hb]

end Exposure

namespace ImportSpec

variable {s t : ImportSpec}

/-- The default, where there is one, and all names are words. -/
def BindsWords (s : ImportSpec) : Prop := ∀ name ∈ s.bound, IsWord name

instance (s : ImportSpec) : Decidable s.BindsWords :=
  inferInstanceAs (Decidable (∀ name ∈ s.bound, IsWord name))

namespace BindsWords

private theorem localName (h : s.BindsWords) : ∀ a ∈ s.localName, IsWord a :=
  fun a ha => h a (List.mem_append_left _ (Option.mem_toList.mpr ha))

private theorem listed (h : s.BindsWords) : ∀ n ∈ s.expose.listed, IsWord n :=
  fun n hn => h n (List.mem_append_right _ hn)

private theorem default?_eq (h : s.BindsWords) : s.default? = s.localName := by
  have hlocal := h.localName
  rw [default?]
  cases hname : s.localName with
  | none => rfl
  | some a =>
    have hsome : a.isEmpty = false := List.isEmpty_eq_false_iff.mpr (hlocal a hname).1
    simp [hsome]

private theorem opening_eq (h : s.BindsWords) : s.opening =
    "import " ++ (s.localName.getD [] ++ s.expose.afterDefault s.localName) := by
  unfold opening Exposure.afterDefault
  rw [h.default?_eq]
  cases s.expose.bindings? with
  | none => cases s.localName <;> simp
  | some b => cases s.localName <;> simp

private theorem forall_getD_localName (h : s.BindsWords) :
    ∀ c ∈ s.localName.getD [], isIdentifierPart c = true := by
  cases hname : s.localName with
  | none => simp
  | some a => exact (h.localName a hname).2

private theorem localName_inj (hs : s.BindsWords) (ht : t.BindsWords)
    (h : s.localName.getD [] = t.localName.getD []) : s.localName = t.localName := by
  cases hname : s.localName with
  | none =>
    cases hname' : t.localName with
    | none => rfl
    | some b =>
      rw [hname, hname'] at h
      exact absurd h.symm (ht.localName b hname').1
  | some a =>
    cases hname' : t.localName with
    | none =>
      rw [hname, hname'] at h
      exact absurd h (hs.localName a hname).1
    | some b =>
      rw [hname, hname'] at h
      exact congrArg some h

private theorem quote_not_mem_opening (h : s.BindsWords) : quote ∉ s.opening := by
  have himport : quote ∉ ("import " : Text) := by decide
  have hdefault := quote_not_mem_of_forall h.forall_getD_localName
  have hafter := Exposure.quote_not_mem_afterDefault h.listed s.localName
  rw [h.opening_eq]
  simp only [List.mem_append, himport, hdefault, hafter, or_self, not_false_eq_true]

private theorem opening_inj (hs : s.BindsWords) (ht : t.BindsWords) (h : s.opening = t.opening) :
    s.localName = t.localName ∧ s.expose = t.expose := by
  rw [hs.opening_eq, ht.opening_eq] at h
  obtain ⟨hdefault, hafter⟩ := Text.append_inj_of_stops hs.forall_getD_localName
    ht.forall_getD_localName (Exposure.stops_afterDefault s.expose s.localName)
    (Exposure.stops_afterDefault t.expose t.localName) (List.append_cancel_left h)
  have hlocal := localName_inj hs ht hdefault
  rw [hlocal] at hafter
  have hbindings := Exposure.bindings?_eq_of_afterDefault hafter
  exact ⟨hlocal, Exposure.bindings?_inj hs.listed ht.listed hbindings⟩

private theorem line_inj (hs : s.BindsWords) (ht : t.BindsWords) (h : s.line = t.line) : s = t := by
  rw [line_eq, line_eq] at h
  have hunquoted {s : ImportSpec} (hs : s.BindsWords) :
      ∀ c ∈ s.opening, decide (c ≠ quote) = true :=
    fun c hc => decide_eq_true fun heq => hs.quote_not_mem_opening (heq ▸ hc)
  have hstop (s : ImportSpec) : Stops (fun c => decide (c ≠ quote)) s.specifier :=
    Text.stops_cons.mpr (by decide)
  obtain ⟨hopening, hspecifier⟩ := Text.append_inj_of_stops (hunquoted hs) (hunquoted ht) (hstop s)
    (hstop t) h
  obtain ⟨hlocal, hexpose⟩ := opening_inj hs ht hopening
  have hsource : s.source = t.source := List.append_cancel_right (List.cons.inj hspecifier).2
  obtain ⟨source, localName, expose⟩ := s
  obtain ⟨source', localName', expose'⟩ := t
  cases hsource
  cases hlocal
  cases hexpose
  rfl

end BindsWords

end ImportSpec

namespace Import

/-- The import has the parts of a spec, be it given as a value that is read or built from parts. -/
def IsOf : Import → ImportSpec → Prop
  | .given v, s => ImportSpec.ofValue v = .ok s
  | .built i, s => i.IsOf s

private theorem IsOf.line_eq {i : Import} {s : ImportSpec} (h : i.IsOf s) :
    i.line = .ok s.line := by
  cases i with
  | given v => exact map_eq_ok_iff.mpr ⟨s, h, rfl⟩
  | built i => exact mapError_eq_ok_iff.mpr (BuiltImport.line_eq_ok h)

end Import

/-- Imports that bind words have lines, and the same one only if they have the same source, default
and exposure, whatever else is in their sources. -/
theorem import_line_unambiguous {i j : Import} {s t : ImportSpec} (hi : i.IsOf s) (hj : j.IsOf t)
    (hs : s.BindsWords) (ht : t.BindsWords) :
    i.line = .ok s.line ∧ (i.line = j.line ↔ s = t) := by
  refine ⟨hi.line_eq, ?_⟩
  rw [hi.line_eq, hj.line_eq]
  constructor
  · intro h
    exact hs.line_inj ht (Except.ok.inj h)
  · rintro rfl
    rfl

/-- A default from a source that looks like the rest of a line. -/
def mimicImport : Value :=
  .map [(.text "from", .text ", \x7b b \x7d from "), (.text "as", .text "$d")]

theorem import_line_unambiguous_mimic :
    let s : ImportSpec := ⟨", \x7b b \x7d from ", some "$d", .nothing⟩
    let t : ImportSpec := ⟨" from ", some "$d", .names ["b"]⟩
    let j : BuiltImport := ⟨.text " from ", .text "$d", .list [.text "b"]⟩
    s.BindsWords ∧ t.BindsWords ∧
    (Import.given mimicImport).line = .ok "import $d from ', \x7b b \x7d from '" ∧
    (Import.built j).line = .ok "import $d, \x7b b \x7d from ' from '" ∧
    (Import.given mimicImport).line ≠ (Import.built j).line := by
  intro s t j
  have hname : ImportSpec.IsName "$d" := ImportSpec.isBlank_eq_false_iff.mp (by decide)
  have hlisted : ∀ n ∈ (["b"] : List Text), ImportSpec.IsName n := by
    simpa using ImportSpec.isBlank_eq_false_iff.mp (by decide)
  have hi : (Import.given mimicImport).IsOf s := rfl
  have hj : (Import.built j).IsOf t := ⟨rfl, .name hname, .list (by decide) hlisted⟩
  have hs : s.BindsWords := by decide
  have ht : t.BindsWords := by decide
  obtain ⟨hline, hsame⟩ := import_line_unambiguous hi hj hs ht
  obtain ⟨hline', -⟩ := import_line_unambiguous hj hi ht hs
  exact ⟨hs, ht, hline, hline', fun h => absurd (hsame.mp h) (by decide)⟩

end SceneBook
