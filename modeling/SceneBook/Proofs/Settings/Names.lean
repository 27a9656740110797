import SceneBook.Proofs.Text.Lines
import SceneBook.Settings.Basic

/-!
# Names in settings

Settings are accepted for two names and a namespace. Each name has a grammar over an alphabet of
ASCII characters, and what is accepted is such a name or one with a single line feed after it. The
line feed is then part of what collation writes.
-/

namespace SceneBook.Settings

open Text (lineFeed)

def lowerLetters : Text := "abcdefghijklmnopqrstuvwxyz"

def letters : Text := lowerLetters ++ "ABCDEFGHIJKLMNOPQRSTUVWXYZ"

def digits : Text := "0123456789"

def hyphen : CodePoint := .scalar '-'

def plainParts : Text := lowerLetters ++ digits ++ "._"

/-- A lower-case letter, then lower-case letters, digits, dots and underscores up to a hyphen, and
after it the same characters and more hyphens. -/
def IsElementName (t : Text) : Prop :=
  ∃ first before after, t = first :: (before ++ hyphen :: after) ∧ first ∈ lowerLetters ∧
    before ⊆ plainParts ∧ after ⊆ hyphen :: plainParts

/-- A letter, an underscore or a dollar sign, then the same characters and digits. -/
def IsIdentifierName (t : Text) : Prop :=
  ∃ first rest, t = first :: rest ∧ first ∈ letters ++ "_$" ∧ rest ⊆ letters ++ digits ++ "_$"

/-- The text is a name, or a name with a line feed after it. -/
def UpToBreak (IsName : Text → Prop) (t : Text) : Prop :=
  ∃ name, IsName name ∧ (t = name ∨ t = name ++ "\n")

variable {c : CodePoint} {t : Text} {v : Value} {s : Settings}

/-- A class of ASCII characters is the alphabet that has the same of them. -/
theorem class_iff_mem {p : CodePoint → Bool} {alphabet : Text} (hascii : ∀ c, p c → c.code < 128)
    (hclass : ∀ n < 128, p (.scalar (Char.ofNat n)) → .scalar (Char.ofNat n) ∈ alphabet)
    (halphabet : ∀ c ∈ alphabet, p c) : p c ↔ c ∈ alphabet := by
  constructor
  · intro h
    exact CodePoint.forall_ascii (P := fun c => p c → c ∈ alphabet) hclass (hascii c h) h
  · exact halphabet c

private theorem ascii_of_isElementPart (h : isElementPart c) : c.code < 128 := by
  simp only [isElementPart, isLowerLetter, isDigit, Bool.or_eq_true, Bool.and_eq_true,
    decide_eq_true_eq] at h
  rcases h with (((h | h) | rfl) | rfl) | rfl
  · omega
  · omega
  · decide
  · decide
  · decide

private theorem ascii_of_isIdentifierPart (h : isIdentifierPart c) : c.code < 128 := by
  simp only [isIdentifierPart, startsIdentifier, isLetter, isLowerLetter, isDigit, Bool.or_eq_true,
    Bool.and_eq_true, decide_eq_true_eq] at h
  rcases h with (((h | h) | rfl) | rfl) | h
  · omega
  · omega
  · decide
  · decide
  · omega

private theorem isLowerLetter_iff : isLowerLetter c ↔ c ∈ lowerLetters := by
  refine class_iff_mem (fun c h => ascii_of_isElementPart ?_) (by decide +kernel)
    (by decide +kernel)
  simp [isElementPart, h]

private theorem isElementPart_iff : isElementPart c ↔ c ∈ hyphen :: plainParts :=
  class_iff_mem (fun _ => ascii_of_isElementPart) (by decide +kernel) (by decide +kernel)

private theorem startsIdentifier_iff : startsIdentifier c ↔ c ∈ letters ++ "_$" := by
  refine class_iff_mem (fun c h => ascii_of_isIdentifierPart ?_) (by decide +kernel)
    (by decide +kernel)
  simp [isIdentifierPart, h]

theorem isIdentifierPart_iff : isIdentifierPart c ↔ c ∈ letters ++ digits ++ "_$" :=
  class_iff_mem (fun _ => ascii_of_isIdentifierPart) (by decide +kernel) (by decide +kernel)

private theorem IsElementName.subset (h : IsElementName t) : t ⊆ hyphen :: plainParts := by
  obtain ⟨first, before, after, rfl, hfirst, hbefore, hafter⟩ := h
  have hlower : lowerLetters ⊆ plainParts := fun c hc => by simp [plainParts, hc]
  refine List.cons_subset.mpr ⟨List.mem_cons_of_mem hyphen (hlower hfirst), ?_⟩
  refine List.append_subset.mpr ⟨List.subset_cons_of_subset hyphen hbefore, ?_⟩
  exact List.cons_subset.mpr ⟨List.mem_cons_self, hafter⟩

private theorem isElementName_iff : isElementName t ↔ IsElementName t := by
  cases t with
  | nil => simp [isElementName, IsElementName]
  | cons first rest =>
    simp only [isElementName, Bool.and_eq_true, List.all_eq_true, List.contains_iff_mem,
      isLowerLetter_iff, isElementPart_iff]
    constructor
    · rintro ⟨⟨hfirst, hrest⟩, hhyphen⟩
      -- the hyphen that the grammar asks for is the first one
      obtain ⟨before, after, rfl, hbefore⟩ := List.eq_append_cons_of_mem hhyphen
      refine ⟨first, before, after, rfl, hfirst, ?_, fun c hc => hrest c (by simp [hc])⟩
      intro c hc
      have hne : c ≠ hyphen := ne_of_mem_of_not_mem hc hbefore
      exact List.mem_of_ne_of_mem hne (hrest c (by simp [hc]))
    · intro h
      have hrest : rest ⊆ hyphen :: plainParts := (List.cons_subset.mp h.subset).2
      obtain ⟨_, before, after, heq, hfirst, -, -⟩ := h
      obtain ⟨rfl, rfl⟩ := List.cons.inj heq
      exact ⟨⟨hfirst, hrest⟩, by simp [hyphen]⟩

private theorem isIdentifier_iff : isIdentifier t ↔ IsIdentifierName t := by
  cases t with
  | nil => simp [isIdentifier, IsIdentifierName]
  | cons first rest =>
    simp only [isIdentifier, Bool.and_eq_true, List.all_eq_true, startsIdentifier_iff,
      isIdentifierPart_iff]
    constructor
    · rintro ⟨hfirst, hrest⟩
      exact ⟨first, rest, rfl, hfirst, hrest⟩
    · rintro ⟨_, _, heq, hfirst, hrest⟩
      cases heq
      exact ⟨hfirst, hrest⟩

instance : DecidablePred IsElementName := fun _ => decidable_of_iff _ isElementName_iff

instance : DecidablePred IsIdentifierName := fun _ => decidable_of_iff _ isIdentifier_iff

private theorem withoutFinalBreak_concat (t : Text) : withoutFinalBreak (t ++ "\n") = t := by
  have hlast : (t ++ "\n" : Text).getLast? = some (.scalar '\n') := List.getLast?_concat
  rw [withoutFinalBreak, if_pos hlast]
  exact List.dropLast_concat

private theorem withoutFinalBreak_of_not_mem (h : lineFeed ∉ t) : withoutFinalBreak t = t :=
  if_neg fun hlast => h (List.mem_of_getLast? hlast)

private theorem eq_or_eq_withoutFinalBreak (t : Text) :
    t = withoutFinalBreak t ∨ t = withoutFinalBreak t ++ "\n" := by
  by_cases hlast : t.getLast? = some (.scalar '\n')
  · obtain ⟨above, rfl⟩ := List.getLast?_eq_some_iff.mp hlast
    have habove : withoutFinalBreak (above ++ "\n") = above := withoutFinalBreak_concat above
    exact .inr (congrArg (· ++ ("\n" : Text)) habove.symm)
  · exact .inl (if_neg hlast).symm

private theorem upToBreak_iff {IsName : Text → Prop}
    (hname : ∀ name, IsName name → lineFeed ∉ name) :
    UpToBreak IsName t ↔ IsName (withoutFinalBreak t) := by
  constructor
  · rintro ⟨name, h, rfl | rfl⟩
    · rwa [withoutFinalBreak_of_not_mem (hname t h)]
    · rwa [withoutFinalBreak_concat]
  · intro h
    exact ⟨_, h, eq_or_eq_withoutFinalBreak t⟩

private theorem IsElementName.not_isBlank (h : IsElementName t) : ∀ c ∈ t, c.isBlank = false := by
  have halphabet : ∀ c ∈ hyphen :: plainParts, c.isBlank = false := by decide +kernel
  exact fun c hc => halphabet c (h.subset hc)

private theorem IsElementName.lineFeed_not_mem (h : IsElementName t) : lineFeed ∉ t := by
  intro hmem
  have hblank := h.not_isBlank lineFeed hmem
  cases hblank

/-- A line feed is the only blank that can be in an accepted element. -/
theorem UpToBreak.isElementName_iff_not_isBlank (h : UpToBreak IsElementName t) :
    IsElementName t ↔ ∀ c ∈ t, c.isBlank = false := by
  refine ⟨IsElementName.not_isBlank, fun hblank => ?_⟩
  obtain ⟨name, hname, rfl | rfl⟩ := h
  · exact hname
  · cases hblank lineFeed (List.mem_append_right name List.mem_cons_self)

theorem UpToBreak.count_lineFeed (h : UpToBreak IsElementName t) :
    t.count lineFeed = if IsElementName t then 0 else 1 := by
  obtain ⟨name, hname, rfl | rfl⟩ := h
  · rw [if_pos hname, List.count_eq_zero.mpr hname.lineFeed_not_mem]
  · have hmem : lineFeed ∈ (name ++ "\n" : Text) := List.mem_append_right name List.mem_cons_self
    have hbroken : ¬ IsElementName (name ++ "\n") := fun h => h.lineFeed_not_mem hmem
    rw [if_neg hbroken, List.count_append, List.count_eq_zero.mpr hname.lineFeed_not_mem]
    rfl

private theorem IsIdentifierName.lineFeed_not_mem (h : IsIdentifierName t) : lineFeed ∉ t := by
  obtain ⟨first, rest, rfl, hfirst, hrest⟩ := h
  intro hmem
  rcases List.mem_cons.mp hmem with rfl | hmem
  · exact absurd hfirst (by decide +kernel)
  · exact absurd (hrest hmem) (by decide +kernel)

theorem okElement_iff : okElement v ↔ ∃ t, v = .text t ∧ UpToBreak IsElementName t := by
  simp only [okElement, Option.any_eq_true, Value.text?_eq_some_iff, isElementName_iff,
    upToBreak_iff fun _ => IsElementName.lineFeed_not_mem]

theorem okRootKey_iff : okRootKey v ↔ ∃ t, v = .text t ∧ UpToBreak IsIdentifierName t := by
  simp only [okRootKey, Option.any_eq_true, Value.text?_eq_some_iff, isIdentifier_iff,
    upToBreak_iff fun _ => IsIdentifierName.lineFeed_not_mem]

theorem okNamespace_iff : okNamespace v ↔ ∃ t, v = .text t ∧ t ≠ [] := by
  simp [okNamespace, Option.any_eq_true, Value.text?_eq_some_iff]

theorem fault?_eq_none_iff : s.fault? = none ↔
    okElement s.sceneElement = true ∧ okRootKey s.storeRootKey = true ∧
      okNamespace s.svgNamespace = true := by
  unfold fault?
  cases okElement s.sceneElement <;> cases okRootKey s.storeRootKey <;>
    cases okNamespace s.svgNamespace <;> simp

end SceneBook.Settings
