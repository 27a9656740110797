import SceneBook.Artifact
import SceneBook.Proofs.Text.JsonLiteral
import Mathlib.Algebra.GroupWithZero.Nat

/-!
# Encoded texts

The bytes of a code point can be read back whatever follows them, and surrogates have numbers of
their own. So the bytes of a text tell the text, and artifacts with one digest have one text unless
the hash takes two byte strings to one word.
-/

namespace SceneBook

namespace CodePoint

private theorem code_lt (c : CodePoint) : c.code < 0x110000 := by
  cases c with
  | scalar a =>
    change a.toNat < 0x110000
    have ha := JsonLiteral.toNat_lt a
    omega
  | surrogate s =>
    change s.code < 0x110000
    have hs := s.inRange
    omega

private theorem code_injective : Function.Injective code := by
  have hapart (a : Char) (s : Surrogate) : a.toNat ≠ s.code := by
    have ha := JsonLiteral.toNat_lt a
    have hs := s.inRange
    omega
  intro c d h
  cases c with
  | scalar a =>
    cases d with
    | scalar b => exact congrArg scalar (Char.toNat_inj.mp h)
    | surrogate s => exact absurd h (hapart a s)
  | surrogate s =>
    cases d with
    | scalar b => exact absurd h.symm (hapart b s)
    | surrogate s' =>
      obtain ⟨n, hn⟩ := s
      obtain ⟨m, hm⟩ := s'
      cases h
      rfl

/-- The number that the first bytes spell, and the bytes behind it. The first byte tells how many
there are. -/
def number? : List Nat → Option (Nat × List Nat)
  | [] => none
  | a :: rest =>
    if a < 0x80 then some (a, rest)
    else if a < 0xE0 then
      match rest with
      | b :: rest => some ((a - 0xC0) * 0x40 + (b - 0x80), rest)
      | _ => none
    else if a < 0xF0 then
      match rest with
      | b :: c :: rest => some ((a - 0xE0) * 0x1000 + (b - 0x80) * 0x40 + (c - 0x80), rest)
      | _ => none
    else
      match rest with
      | b :: c :: d :: rest =>
        some ((a - 0xF0) * 0x40000 + (b - 0x80) * 0x1000 + (c - 0x80) * 0x40 + (d - 0x80), rest)
      | _ => none

private theorem number?_bytes (c : CodePoint) (rest : List Nat) :
    number? (c.bytes ++ rest) = some (c.code, rest) := by
  have hlt := c.code_lt
  unfold bytes
  dsimp only
  split_ifs with hone htwo hthree
  · simp [number?, hone]
  · have hlead : ¬ 0xC0 + c.code / 0x40 < 0x80 := by omega
    have hshort : 0xC0 + c.code / 0x40 < 0xE0 := by omega
    simp [number?, hlead, hshort]
    omega
  · have hlead : ¬ 0xE0 + c.code / 0x1000 < 0x80 := by omega
    have hlong : ¬ 0xE0 + c.code / 0x1000 < 0xE0 := by omega
    have hshort : 0xE0 + c.code / 0x1000 < 0xF0 := by omega
    simp [number?, hlead, hlong, hshort]
    omega
  · have hlead : ¬ 0xF0 + c.code / 0x40000 < 0x80 := by omega
    have hlong : ¬ 0xF0 + c.code / 0x40000 < 0xE0 := by omega
    have hlonger : ¬ 0xF0 + c.code / 0x40000 < 0xF0 := by omega
    simp [number?, hlead, hlong, hlonger]
    omega

private theorem bytes_append_inj {c d : CodePoint} {xs ys : List Nat}
    (h : c.bytes ++ xs = d.bytes ++ ys) :
    c = d ∧ xs = ys := by
  have hread := number?_bytes c xs
  rw [h, number?_bytes] at hread
  obtain ⟨hcode, hrest⟩ := Prod.mk.inj (Option.some.inj hread)
  exact ⟨(code_injective hcode).symm, hrest.symm⟩

private theorem bytes_ne_nil (c : CodePoint) : c.bytes ≠ [] := by
  intro h
  have hread := number?_bytes c []
  rw [h] at hread
  cases hread

private theorem byte_lt {c : CodePoint} {b : Nat} (hb : b ∈ c.bytes) : b < 0x100 := by
  have hlt := c.code_lt
  unfold bytes at hb
  dsimp only at hb
  split_ifs at hb <;> simp only [List.mem_cons, List.not_mem_nil, or_false] at hb <;> omega

end CodePoint

namespace Text

private theorem bytes_cons (c : CodePoint) (t : Text) : bytes (c :: t) = c.bytes ++ bytes t :=
  List.flatMap_cons

private theorem bytes_injective : Function.Injective bytes := by
  intro t
  induction t with
  | nil =>
    intro u h
    cases u with
    | nil => rfl
    | cons d rest =>
      rw [bytes_cons] at h
      exact absurd (List.append_eq_nil_iff.mp h.symm).1 d.bytes_ne_nil
  | cons c rest ih =>
    intro u h
    cases u with
    | nil =>
      rw [bytes_cons] at h
      exact absurd (List.append_eq_nil_iff.mp h).1 c.bytes_ne_nil
    | cons d rest' =>
      rw [bytes_cons, bytes_cons] at h
      obtain ⟨rfl, hrest⟩ := CodePoint.bytes_append_inj h
      rw [ih hrest]

/-- Two halves of a pair are not the character that the pair stands for elsewhere. -/
example : bytes [.surrogate ⟨0xD83D, by decide⟩, .surrogate ⟨0xDE00, by decide⟩] ≠
    bytes [.scalar '😀'] := by decide

private theorem hexDigit_inj {m n : Nat} (hm : m < 16) (hn : n < 16) (h : hexDigit m = hexDigit n) :
    m = n := by
  have hread := JsonLiteral.hexDigit?_hexDigit m hm
  rw [h, JsonLiteral.hexDigit?_hexDigit n hn] at hread
  exact (Option.some.inj hread).symm

private theorem hex_succ (width n : Nat) :
    hex (width + 1) n = hexDigit (n / 16 ^ width % 16) :: hex width n := by
  simp [hex, List.range_succ]

private theorem mod_eq_of_hex_eq {width m n : Nat} (h : hex width m = hex width n) :
    m % 16 ^ width = n % 16 ^ width := by
  induction width with
  | zero => rw [Nat.pow_zero, Nat.mod_one, Nat.mod_one]
  | succ width ih =>
    rw [hex_succ, hex_succ] at h
    obtain ⟨hdigit, hrest⟩ := List.cons.inj h
    have hhighest := hexDigit_inj (Nat.mod_lt _ (by decide)) (Nat.mod_lt _ (by decide)) hdigit
    rw [Nat.mod_pow_succ, Nat.mod_pow_succ, ih hrest, hhighest]

end Text

namespace Fingerprint

private theorem digits_injective : Function.Injective digits := by
  intro h g heq
  have hmod := Text.mod_eq_of_hex_eq heq
  have hfits (x : UInt64) : x.toNat % 16 ^ 16 = x.toNat := Nat.mod_eq_of_lt x.toNat_lt
  rw [hfits, hfits] at hmod
  exact UInt64.toNat_inj.mp hmod

/-- Different bytes that the hash takes to the same word. -/
def Collide (xs ys : List Nat) : Prop := xs ≠ ys ∧ ofBytes xs = ofBytes ys

end Fingerprint

/-- Every text has bytes, whatever surrogates are in it, and no other text has the same. Two
artifacts with one digest have one text, or their bytes are a collision of the hash. -/
theorem Artifact.digest_eq_iff (a b : Artifact) :
    (∀ byte ∈ a.code.bytes, byte < 0x100) ∧
      (a.code.bytes = b.code.bytes ↔ a.code = b.code) ∧
      (a.digest = b.digest ↔
        a.code = b.code ∨ Fingerprint.Collide a.code.bytes b.code.bytes) := by
  have hbytes : a.code.bytes = b.code.bytes ↔ a.code = b.code := Text.bytes_injective.eq_iff
  refine ⟨fun byte hbyte => ?_, hbytes, ?_⟩
  · obtain ⟨c, -, hc⟩ := List.mem_flatMap.mp hbyte
    exact CodePoint.byte_lt hc
  · have hdigest : a.digest = b.digest ↔
        Fingerprint.ofBytes a.code.bytes = Fingerprint.ofBytes b.code.bytes :=
      Fingerprint.digits_injective.eq_iff
    rw [hdigest, Fingerprint.Collide, Ne, hbytes]
    by_cases hcode : a.code = b.code
    · simp [hcode]
    · simp [hcode]

end SceneBook
