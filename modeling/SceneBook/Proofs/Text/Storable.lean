import SceneBook.Proofs.Results
import SceneBook.Proofs.Text.Join
import SceneBook.Text.Blank
import SceneBook.Text.Fingerprint
import SceneBook.Text.JsonString

/-!
# Storable texts

A text of characters alone is stored by the bytes that its fingerprint is made of, and JSON can
write it. A lone surrogate has a fingerprint too, but it is neither stored nor written.
-/

namespace SceneBook

namespace CodePoint

/-- The bytes of a character in UTF-8; a lone surrogate has none. -/
def utf8? : CodePoint → Option (List Nat)
  | .scalar c => some ((String.utf8EncodeChar c).map UInt8.toNat)
  | .surrogate _ => none

/-- The extension to surrogates leaves the bytes of characters as they are. -/
theorem bytes_scalar (c : Char) :
    (CodePoint.scalar c).bytes = (String.utf8EncodeChar c).map UInt8.toNat := by
  have hval : c.val.toNat = c.toNat := rfl
  have hlt : c.toNat < 0x110000 := by
    have hvalid := c.valid
    unfold UInt32.isValidChar Nat.isValidChar at hvalid
    omega
  have hone : c.toNat < 0x80 ↔ c.toNat ≤ 0x7F := Nat.lt_succ_iff
  have htwo : c.toNat < 0x800 ↔ c.toNat ≤ 0x7FF := Nat.lt_succ_iff
  have hthree : c.toNat < 0x10000 ↔ c.toNat ≤ 0xFFFF := Nat.lt_succ_iff
  simp only [bytes, code, String.utf8EncodeChar, hval, hone, htwo, hthree]
  split_ifs <;> simp <;> omega

end CodePoint

namespace Text

private theorem inRanges_of_lt {ranges : List (Nat × Nat)} {n : Nat} (h : ∀ r ∈ ranges, r.2 < n) :
    inRanges ranges n = false := by
  induction ranges with
  | nil => rfl
  | cons r rest ih =>
    have hr : ¬ n ≤ r.2 := Nat.not_le.mpr (h r List.mem_cons_self)
    have hrest := ih fun r' hr' => h r' (List.mem_cons_of_mem _ hr')
    simp [inRanges, hr, hrest]

end Text

private theorem CodePoint.isBlank_surrogate (s : Surrogate) :
    (CodePoint.surrogate s).isBlank = false := by
  have hlow : ∀ r ∈ blankRanges, r.2 < 0xD800 := by decide
  exact Text.inRanges_of_lt fun r hr => Nat.lt_of_lt_of_le (hlow r hr) s.inRange.1

namespace Text

variable {t u : Text} {c : CodePoint}

/-- What a file holds in which the text is stored. -/
def utf8? (t : Text) : Option (List Nat) := (t.mapM CodePoint.utf8?).map List.flatten

theorem utf8?_eq (t : Text) : t.utf8? = if t.isStorable then some t.bytes else none := by
  induction t with
  | nil => rfl
  | cons c rest ih =>
    cases c with
    | surrogate s => rfl
    | scalar d =>
      have hcons : utf8? (.scalar d :: rest) =
          (utf8? rest).map fun bs => (CodePoint.scalar d).bytes ++ bs := by
        rw [CodePoint.bytes_scalar]
        simp only [utf8?, List.mapM_cons, CodePoint.utf8?]
        cases rest.mapM CodePoint.utf8? <;> rfl
      have hstorable : isStorable (.scalar d :: rest) = isStorable rest := rfl
      rw [hcons, ih, hstorable]
      split_ifs <;> rfl

theorem isStorable_iff : t.isStorable = true ↔ ∀ s, .surrogate s ∉ t := by
  rw [isStorable, List.all_eq_true]
  constructor
  · intro h s hs
    exact absurd (h _ hs) (by simp [CodePoint.isSurrogate])
  · intro h c hc
    cases c with
    | scalar d => rfl
    | surrogate s => exact absurd hc (h s)

@[simp] theorem isStorable_append :
    (t ++ u).isStorable = (t.isStorable && u.isStorable) := List.all_append

@[simp] theorem isStorable_ofChars (cs : List Char) : (ofChars cs).isStorable = true := by
  simp [isStorable, ofChars, CodePoint.isSurrogate]

theorem ofChars_injective : Function.Injective ofChars :=
  List.map_injective_iff.mpr fun _ _ h => CodePoint.scalar.inj h

theorem exists_ofChars (h : t.isStorable = true) : ∃ cs, ofChars cs = t := by
  induction t with
  | nil => exact ⟨[], rfl⟩
  | cons c rest ih =>
    cases c with
    | surrogate s => cases h
    | scalar d =>
      obtain ⟨cs, rfl⟩ := ih h
      exact ⟨d :: cs, rfl⟩

@[simp] theorem isStorable_ofString (s : String) : (ofString s).isStorable = true :=
  isStorable_ofChars s.toList

@[simp] theorem isStorable_ofInt (i : Int) : (ofInt i).isStorable = true := by
  cases i with
  | ofNat n => exact isStorable_ofChars _
  | negSucc n => exact isStorable_ofChars ('-' :: _)

@[simp] theorem isStorable_hex (width n : Nat) : (hex width n).isStorable = true := by
  simp [isStorable, hex, hexDigit, CodePoint.isSurrogate]

@[simp] theorem isStorable_fingerprint : t.fingerprint.isStorable = true := isStorable_hex _ _

theorem isStorable_of_join {sep : Text} {ts : List Text} (h : (join sep ts).isStorable = true)
    (ht : t ∈ ts) : t.isStorable = true := by
  rw [isStorable_iff] at h ⊢
  exact fun s hs => h s (mem_join ht hs)

theorem isSome_plainJson? (t : Text) : t.plainJson?.isSome = t.isStorable := by
  have hpoint (c : CodePoint) : (plainPoint? c).isSome = !c.isSurrogate := by
    unfold plainPoint?
    cases c.isSurrogate with
    | true => rfl
    | false => cases shortEscape? c <;> rfl
  rw [plainJson?, Option.isSome_map, isSome_mapM, isStorable]
  simp only [hpoint]

private theorem mem_wordsAfter {seen : Text} (hblank : c.isBlank = false) (hc : c ∈ seen ∨ c ∈ t) :
    ∃ w ∈ wordsAfter seen t, c ∈ w := by
  induction t generalizing seen with
  | nil =>
    have hseen : c ∈ seen := by simpa using hc
    have hne : seen.isEmpty = false := by
      cases seen with
      | nil => cases hseen
      | cons => rfl
    exact ⟨seen.reverse, by simp [wordsAfter, hne], by simpa using hseen⟩
  | cons d rest ih =>
    have hrest (hd : d.isBlank = true) (hc : c ∈ d :: rest) : c ∈ rest := by
      apply (List.mem_cons.mp hc).resolve_left
      rintro rfl
      rw [hblank] at hd
      cases hd
    simp only [wordsAfter]
    split_ifs with hd hseen
    · obtain rfl := List.isEmpty_iff.mp hseen
      have hcons : c ∈ d :: rest := by simpa using hc
      exact ih (.inr (hrest hd hcons))
    · rcases hc with hc | hc
      · exact ⟨seen.reverse, List.mem_cons_self, by simpa using hc⟩
      · obtain ⟨w, hw, hcw⟩ := @ih [] (.inr (hrest hd hc))
        exact ⟨w, List.mem_cons_of_mem _ hw, hcw⟩
    · apply ih
      rcases hc with hc | hc
      · exact .inl (List.mem_cons_of_mem _ hc)
      · rcases List.mem_cons.mp hc with rfl | hc
        · exact .inl List.mem_cons_self
        · exact .inr hc

/-- Surrogates are not blank, so that the words have all of them. -/
theorem isStorable_of_words {sep : Text} (h : (join sep t.words).isStorable = true) :
    t.isStorable = true := by
  rw [isStorable_iff]
  intro s hs
  obtain ⟨w, hw, hsw⟩ := mem_wordsAfter (CodePoint.isBlank_surrogate s) (.inr hs)
  exact isStorable_iff.mp (isStorable_of_join h hw) s hsw

end Text

end SceneBook
