import SceneBook.Proofs.Text.Runs
import SceneBook.Text.JsonString
import Mathlib.Data.List.Basic

/-!
# Decimals as text

A natural number has one decimal, and JSON writes that decimal as it is between quotes. So the
numbers in artifacts and the keys of dispatch tables tell their scenes apart.
-/

namespace SceneBook.Text

theorem ofNat_injective : Function.Injective Text.ofNat := by
  intro m n h
  have hc : Nat.toDigits 10 m = Nat.toDigits 10 n :=
    List.map_injective_iff.mpr (fun _ _ hab => CodePoint.scalar.inj hab) h
  simpa using congrArg (fun cs => Nat.ofDigitChars 10 cs 0) hc

@[simp] theorem ofInt_natCast (n : Nat) : Text.ofInt (n : Int) = Text.ofNat n := rfl

private theorem isDigit_of_mem_ofNat {n : Nat} {c : Char} (h : .scalar c ∈ Text.ofNat n) :
    c.isDigit := by
  obtain ⟨d, hd, heq⟩ := List.mem_map.mp h
  cases heq
  exact Nat.isDigit_of_mem_toDigits (by decide) (by decide) hd

theorem not_mem_ofNat {c : Char} (h : c.isDigit = false) (n : Nat) : .scalar c ∉ Text.ofNat n := by
  intro hc
  rw [isDigit_of_mem_ofNat hc] at h
  cases h

theorem not_mem_ofInt {c : Char} (h : c.isDigit = false) (hminus : c ≠ '-') (i : Int) :
    .scalar c ∉ Text.ofInt i := by
  cases i with
  | ofNat n => exact not_mem_ofNat h n
  | negSucc n =>
    intro hc
    rcases List.mem_cons.mp hc with heq | hc
    · exact hminus (CodePoint.scalar.inj heq)
    · exact not_mem_ofNat h (n + 1) hc

private theorem ofNat_ne_minus (m n : Nat) : Text.ofNat m ≠ .scalar '-' :: Text.ofNat n := by
  intro h
  have hminus : .scalar '-' ∈ Text.ofNat m := by simp [h]
  exact not_mem_ofNat (by decide) m hminus

theorem ofInt_injective : Function.Injective Text.ofInt := by
  intro i j h
  cases i with
  | ofNat m =>
    cases j with
    | ofNat n => exact congrArg Int.ofNat (ofNat_injective h)
    | negSucc n => exact absurd h (ofNat_ne_minus m (n + 1))
  | negSucc m =>
    cases j with
    | ofNat n => exact absurd h.symm (ofNat_ne_minus n (m + 1))
    | negSucc n =>
      have hsucc : m + 1 = n + 1 := ofNat_injective (List.cons.inj h).2
      exact congrArg Int.negSucc (Nat.succ.inj hsucc)

theorem count_ofInt {c : Char} (h : c.isDigit = false) (hminus : c ≠ '-') (i : Int) :
    (Text.ofInt i).count (.scalar c) = 0 :=
  List.count_eq_zero.mpr (not_mem_ofInt h hminus i)

/-- A number is read up to the first character that is none of its own. -/
theorem ofInt_append_inj {c : Char} (h : c.isDigit = false) (hminus : c ≠ '-') {i j : Int}
    {rest rest' : Text}
    (heq : Text.ofInt i ++ .scalar c :: rest = Text.ofInt j ++ .scalar c :: rest') :
    i = j ∧ rest = rest' := by
  have hcount := (count_ofInt h hminus i).trans (count_ofInt h hminus j).symm
  obtain ⟨hnumber, hrest⟩ := append_cons_inj_of_count hcount heq
  exact ⟨ofInt_injective hnumber, hrest⟩

private theorem shortEscape?_digit {c : Char} (h : c.isDigit) :
    shortEscape? (.scalar c) = none := by
  unfold shortEscape?
  split <;> simp_all [Char.isDigit]

private theorem asciiPoint_digit {c : Char} (h : c.isDigit) :
    asciiPoint (.scalar c) = [.scalar c] := by
  have hr : 48 ≤ c.toNat ∧ c.toNat ≤ 57 := by
    simpa [Char.isDigit, UInt32.le_iff_toNat_le] using h
  have hp : 0x20 ≤ c.toNat ∧ c.toNat < 0x7F := by omega
  simp [asciiPoint, shortEscape?_digit h, CodePoint.code, hp]

theorem asciiJson_ofNat (n : Nat) :
    asciiJson (Text.ofNat n) = "\"" ++ Text.ofNat n ++ "\"" := by
  have hd : (Text.ofNat n).spell asciiPoint = Text.ofNat n := by
    unfold spell
    conv_rhs => rw [← List.flatMap_singleton' (Text.ofNat n)]
    refine List.flatMap_congr fun p hp => ?_
    obtain ⟨c, hc, rfl⟩ := List.mem_map.mp hp
    exact asciiPoint_digit (Nat.isDigit_of_mem_toDigits (by decide) (by decide) hc)
  rw [asciiJson, hd]
  rfl

end SceneBook.Text
