import SceneBook.Number.Double
import Mathlib.Data.Int.Log
import Mathlib.Data.Rat.Floor
import Mathlib.Tactic.Linarith
import Mathlib.Tactic.Positivity
import Mathlib.Tactic.Ring

/-!
# Rounding to doubles

The bits of finite doubles without a sign are in the order of what they stand for. Rounding a
quotient to the nearest double keeps the order of quotients, and so do a product and a difference
that are rounded once.
-/

namespace SceneBook.Double

private theorem le_roundHalfEven_iff {k n d : Nat} (hd : 0 < d) : k ≤ roundHalfEven n d ↔
    2 * (k * d) < 2 * n + d ∨ 2 * (k * d) = 2 * n + d ∧ k % 2 = 0 := by
  have hn : n / d * d + n % d = n := Nat.div_add_mod' n d
  have hr : n % d < d := Nat.mod_lt n hd
  unfold roundHalfEven
  generalize n / d = q at hn ⊢
  generalize n % d = r at hn hr ⊢
  subst hn
  rcases Nat.lt_trichotomy k (q + 1) with hlt | rfl | hgt
  · have hkq : k * d ≤ q * d := Nat.mul_le_mul_right d (by omega)
    grind
  · rw [Nat.succ_mul]
    grind
  · have hqk : (q + 2) * d ≤ k * d := Nat.mul_le_mul_right d hgt
    grind

private theorem div_le_div_iff_mul_le {n d n' d' : Nat} (hd : 0 < d) (hd' : 0 < d') :
    (n : ℚ) / d ≤ n' / d' ↔ n * d' ≤ n' * d := by
  rw [div_le_div_iff₀ (Nat.cast_pos.mpr hd) (Nat.cast_pos.mpr hd')]
  norm_cast

private theorem roundHalfEven_mono {n d n' d' : Nat} (hd : 0 < d) (hd' : 0 < d')
    (h : (n : ℚ) / d ≤ n' / d') : roundHalfEven n d ≤ roundHalfEven n' d' := by
  generalize hk : roundHalfEven n d = k
  have hcross : (2 * n + d) * d' ≤ (2 * n' + d') * d := by
    linarith [(div_le_div_iff_mul_le hd hd').mp h]
  have hswap : 2 * (k * d) * d' = 2 * (k * d') * d := by ring
  apply (le_roundHalfEven_iff hd').mpr
  rcases (le_roundHalfEven_iff hd).mp hk.ge with hlt | ⟨heq, heven⟩
  · left
    apply Nat.lt_of_mul_lt_mul_right (a := d)
    calc 2 * (k * d') * d = 2 * (k * d) * d' := hswap.symm
      _ < (2 * n + d) * d' := Nat.mul_lt_mul_of_pos_right hlt hd'
      _ ≤ (2 * n' + d') * d := hcross
  · rw [← heq, hswap] at hcross
    have hle : 2 * (k * d') ≤ 2 * n' + d' := Nat.le_of_mul_le_mul_right hcross hd
    omega

private theorem roundHalfEven_one (n : Nat) : roundHalfEven n 1 = n := by
  simp [roundHalfEven, Nat.mod_one]

section

variable {n d n' d' : Nat}

private theorem scaled_div (n d : Nat) (q : Int) :
    ((scaled n d q).1 : ℚ) / (scaled n d q).2 = (n : ℚ) / d / 2 ^ q := by
  unfold scaled
  split
  · next h =>
    obtain ⟨k, rfl⟩ := Int.eq_ofNat_of_zero_le h
    simp [div_div]
  · next h =>
    obtain ⟨k, hk⟩ := Int.eq_ofNat_of_zero_le (Int.neg_nonneg_of_nonpos (Int.le_of_not_le h))
    rw [hk, ← Int.neg_neg q, hk]
    simp [div_mul_eq_mul_div]

private theorem scaled_pos (hd : 0 < d) (q : Int) : 0 < (scaled n d q).2 := by
  unfold scaled
  split
  · exact Nat.mul_pos hd (Nat.two_pow_pos _)
  · exact hd

private theorem floorLog2_eq (hn : 0 < n) (hd : 0 < d) :
    floorLog2 n d = Int.log 2 ((n : ℚ) / d) := by
  have hx : (0 : ℚ) < n / d := by positivity
  have hle (e : Int) : e ≤ Int.log 2 ((n : ℚ) / d) ↔ (2 : ℚ) ^ e ≤ n / d := by
    rw [← Int.zpow_le_iff_le_log one_lt_two hx, Nat.cast_ofNat]
  have hlow : (n.log2 : Int) - (d.log2 + 1 : Nat) ≤ Int.log 2 ((n : ℚ) / d) := by
    have hn2 : (2 : ℚ) ^ n.log2 ≤ n := by exact_mod_cast Nat.log2_self_le hn.ne'
    have hd2 : (d : ℚ) ≤ 2 ^ (d.log2 + 1) := by exact_mod_cast Nat.lt_log2_self.le
    rw [hle, zpow_sub₀ two_ne_zero, zpow_natCast, zpow_natCast]
    gcongr
  have hhigh : Int.log 2 ((n : ℚ) / d) < (n.log2 + 1 : Nat) - (d.log2 : Int) := by
    have hn2 : (n : ℚ) < 2 ^ (n.log2 + 1) := by exact_mod_cast Nat.lt_log2_self
    have hd2 : (2 : ℚ) ^ d.log2 ≤ d := by exact_mod_cast Nat.log2_self_le hd.ne'
    rw [← not_le, hle, not_le, zpow_sub₀ two_ne_zero, zpow_natCast, zpow_natCast]
    gcongr
  have hfits (e : Int) : (scaled n d e).2 ≤ (scaled n d e).1 ↔ e ≤ Int.log 2 ((n : ℚ) / d) := by
    have hpos : (0 : ℚ) < (scaled n d e).2 := by exact_mod_cast scaled_pos hd e
    have hpower : (0 : ℚ) < 2 ^ e := zpow_pos two_pos e
    rw [hle, ← one_le_div hpower, ← scaled_div, one_le_div hpos, Nat.cast_le]
  have hfloor : floorLog2 n d =
      if (scaled n d (n.log2 - d.log2)).2 ≤ (scaled n d (n.log2 - d.log2)).1
        then (n.log2 : Int) - d.log2 else n.log2 - d.log2 - 1 := rfl
  rw [hfloor, if_congr (hfits _) rfl rfl]
  split <;> omega

/-- The power of two that the last bit of the nearest double stands for. -/
def unit (n d : Nat) : Int := max (floorLog2 n d - 52) (-1074)

/-- How many of these units the nearest double has. -/
def units (n d : Nat) : Nat :=
  roundHalfEven (scaled n d (unit n d)).1 (scaled n d (unit n d)).2

private theorem unit_eq (hn : 0 < n) (hd : 0 < d) :
    unit n d = max (Int.log 2 ((n : ℚ) / d) - 52) (-1074) := by
  rw [unit, floorLog2_eq hn hd]

private theorem unit_mono (hn : 0 < n) (hd : 0 < d) (hn' : 0 < n') (hd' : 0 < d')
    (h : (n : ℚ) / d ≤ n' / d') : unit n d ≤ unit n' d' := by
  have hlog := Int.log_mono_right (b := 2) (by positivity) h
  rw [unit_eq hn hd, unit_eq hn' hd']
  omega

private theorem units_le (hd : 0 < d) {m : Nat} (h : (n : ℚ) / d ≤ m * 2 ^ unit n d) :
    units n d ≤ m := by
  rw [← roundHalfEven_one m]
  apply roundHalfEven_mono (scaled_pos hd _) one_pos
  rwa [scaled_div, Nat.cast_one, div_one, div_le_iff₀ (zpow_pos two_pos _)]

private theorem le_units (hd : 0 < d) {m : Nat} (h : m * 2 ^ unit n d ≤ (n : ℚ) / d) :
    m ≤ units n d := by
  rw [← roundHalfEven_one m]
  apply roundHalfEven_mono one_pos (scaled_pos hd _)
  rwa [scaled_div, Nat.cast_one, div_one, le_div_iff₀ (zpow_pos two_pos _)]

private theorem units_le_two_pow (hn : 0 < n) (hd : 0 < d) : units n d ≤ 2 ^ 53 := by
  apply units_le hd
  have hunit := unit_eq hn hd
  calc (n : ℚ) / d ≤ 2 ^ (Int.log 2 ((n : ℚ) / d) + 1) := by
        exact_mod_cast (Int.lt_zpow_succ_log_self one_lt_two ((n : ℚ) / d)).le
    _ ≤ 2 ^ (53 + unit n d) := zpow_le_zpow_right₀ one_le_two (by omega)
    _ = (2 ^ 53 : Nat) * 2 ^ unit n d := by
        rw [zpow_add₀ two_ne_zero]
        norm_cast

private theorem two_pow_le_units (hn : 0 < n) (hd : 0 < d) (h : -1074 < unit n d) :
    2 ^ 52 ≤ units n d := by
  apply le_units hd
  have hunit := unit_eq hn hd
  calc ((2 ^ 52 : Nat) : ℚ) * 2 ^ unit n d = 2 ^ (52 + unit n d) := by
        rw [zpow_add₀ two_ne_zero]
        norm_cast
    _ = 2 ^ Int.log 2 ((n : ℚ) / d) := by
        congr 1
        omega
    _ ≤ (n : ℚ) / d := by
        exact_mod_cast Int.zpow_log_le_self one_lt_two (by positivity : (0 : ℚ) < n / d)

def limit : Nat := 0x7FF * 2 ^ 52

private theorem bits_signed {rest : Nat} (h : rest ≤ limit) :
    (signed false rest).bits.toNat = rest := by
  have hlt : rest < 2 ^ 64 := Nat.lt_of_le_of_lt h (by decide)
  simpa [signed] using hlt

private theorem bits_infinity : (infinity false).bits.toNat = limit := bits_signed le_rfl

def nearestBits (n d : Nat) : Nat :=
  if units n d < 2 ^ 52 then units n d else (unit n d + 1074).toNat * 2 ^ 52 + units n d

private theorem nearestBits_eq (hn : 0 < n) (hd : 0 < d) :
    nearestBits n d = (unit n d + 1074).toNat * 2 ^ 52 + units n d := by
  unfold nearestBits
  split
  · next hfew =>
    have hle : unit n d ≤ -1074 := by
      by_contra hlt
      exact absurd (two_pow_le_units hn hd (by omega)) (by omega)
    have hleast : unit n d = -1074 := le_antisymm hle (le_max_right _ _)
    simp [hleast]
  · rfl

private theorem ofRatio_eq (n d : Nat) : ofRatio false n d =
    if n = 0 then signed false 0
    else if limit ≤ nearestBits n d then infinity false else signed false (nearestBits n d) := by
  rfl

private theorem bits_ofRatio (hn : 0 < n) :
    (ofRatio false n d).bits.toNat = min limit (nearestBits n d) := by
  rw [ofRatio_eq, if_neg hn.ne']
  split
  · next hlimit => rw [bits_infinity, min_eq_left hlimit]
  · next hlimit =>
    have hle := Nat.le_of_not_le hlimit
    rw [bits_signed hle, min_eq_right hle]

/-- A greater quotient has no smaller double. -/
theorem ofRatio_mono (hd : 0 < d) (hd' : 0 < d') (h : n * d' ≤ n' * d) :
    (ofRatio false n d).bits ≤ (ofRatio false n' d').bits := by
  rw [UInt64.le_iff_toNat_le]
  rcases Nat.eq_zero_or_pos n with rfl | hn
  · have hzero : (ofRatio false 0 d).bits.toNat = 0 := rfl
    rw [hzero]
    exact Nat.zero_le _
  · have hn' : 0 < n' := Nat.pos_of_mul_pos_right (Nat.lt_of_lt_of_le (Nat.mul_pos hn hd') h)
    have hquotient := (div_le_div_iff_mul_le hd hd').mpr h
    rw [bits_ofRatio hn, bits_ofRatio hn', nearestBits_eq hn hd, nearestBits_eq hn' hd']
    apply min_le_min_left
    rcases (unit_mono hn hd hn' hd' hquotient).eq_or_lt with heq | hlt
    · have hunits : units n d ≤ units n' d' := by
        rw [units, units, heq]
        apply roundHalfEven_mono (scaled_pos hd _) (scaled_pos hd' _)
        rw [scaled_div, scaled_div]
        exact div_le_div_of_nonneg_right hquotient (zpow_pos two_pos _).le
      rw [heq]
      exact Nat.add_le_add_left hunits _
    · -- The units of the smaller one fill at most one step of the exponent and what is not written.
      have hunits := units_le_two_pow hn hd
      have hleast : -1074 ≤ unit n d := le_max_right _ _
      have hunits' := two_pow_le_units hn' hd' (by omega)
      have hsteps : (unit n d + 1074).toNat + 1 ≤ (unit n' d' + 1074).toNat := by omega
      have hbits := Nat.mul_le_mul_right (2 ^ 52) hsteps
      omega

end

def IsAmount (a : Double) : Prop := a.bits.toNat < limit

instance (a : Double) : Decidable a.IsAmount := inferInstanceAs (Decidable (_ < _))

/-- How many times the least unit is in what the bits of an amount stand for. -/
def leastUnits (bits : Nat) : Nat :=
  if bits / 2 ^ 52 = 0 then bits % 2 ^ 52
  else (2 ^ 52 + bits % 2 ^ 52) * 2 ^ (bits / 2 ^ 52 - 1)

private theorem leastUnits_mono : Monotone leastUnits := by
  apply monotone_nat_of_le_succ
  intro bits
  unfold leastUnits
  by_cases hfull : bits % 2 ^ 52 = 2 ^ 52 - 1
  · have hexpo : (bits + 1) / 2 ^ 52 = bits / 2 ^ 52 + 1 := by omega
    have hfrac : (bits + 1) % 2 ^ 52 = 0 := by omega
    rw [hexpo, hfrac, hfull]
    cases bits / 2 ^ 52 with
    | zero => simp
    | succ e => simp [Nat.pow_succ]; omega
  · have hexpo : (bits + 1) / 2 ^ 52 = bits / 2 ^ 52 := by omega
    have hfrac : (bits + 1) % 2 ^ 52 = bits % 2 ^ 52 + 1 := by omega
    rw [hexpo, hfrac]
    split
    · omega
    · exact Nat.mul_le_mul_right _ (by omega)

private theorem xor_two_pow {x i : Nat} (h : x < 2 ^ i) : x ^^^ 2 ^ i = x + 2 ^ i := by
  have hhigh : (x ^^^ 2 ^ i) / 2 ^ i = 1 := by
    rw [Nat.xor_div_two_pow, Nat.div_eq_of_lt h, Nat.div_self (Nat.two_pow_pos i), Nat.zero_xor]
  have hlow : (x ^^^ 2 ^ i) % 2 ^ i = x := by
    rw [Nat.xor_mod_two_pow, Nat.mod_eq_of_lt h, Nat.mod_self, Nat.xor_zero]
  have hsplit := Nat.div_add_mod (x ^^^ 2 ^ i) (2 ^ i)
  rw [hhigh, hlow] at hsplit
  omega

private theorem fraction?_finite {a : Double} {m : Nat} {q : Int} (h : a.magnitude = .finite m q)
    (hq : -1074 ≤ q) : ∃ n k, a.fraction? = some (n, k) ∧ 0 < k ∧
      n * 2 ^ 1074 = m * 2 ^ (q + 1074).toNat * k := by
  simp only [fraction?, h]
  split
  · next hwhole =>
    refine ⟨_, 1, rfl, one_pos, ?_⟩
    have hpow : 2 ^ q.toNat * 2 ^ 1074 = 2 ^ (q + 1074).toNat := by
      rw [← Nat.pow_add]
      congr 1
      omega
    rw [Nat.pow_eq, Nat.mul_assoc, hpow, Nat.mul_one]
  · next hpart =>
    refine ⟨m, _, rfl, Nat.two_pow_pos _, ?_⟩
    have hpow : 2 ^ (q + 1074).toNat * 2 ^ (-q).toNat = 2 ^ 1074 := by
      rw [← Nat.pow_add]
      congr 1
      omega
    rw [Nat.pow_eq, Nat.mul_assoc, hpow]

namespace IsAmount

variable {a b c : Double}

private theorem exists_fraction (h : a.IsAmount) : ∃ n k, a.fraction? = some (n, k) ∧ 0 < k ∧
    n * 2 ^ 1074 = leastUnits a.bits.toNat * k := by
  have hlimit : a.bits.toNat < 0x7FF * 2 ^ 52 := h
  have hrest : a.bits.toNat % 2 ^ 63 = a.bits.toNat := by omega
  have hfinite : a.bits.toNat / 2 ^ 52 ≠ 0x7FF := by omega
  have hmagnitude : a.magnitude = if a.bits.toNat / 2 ^ 52 = 0 then
        .finite (a.bits.toNat % 2 ^ 52) (-1074)
      else .finite (2 ^ 52 + a.bits.toNat % 2 ^ 52) ((a.bits.toNat / 2 ^ 52 : Nat) - 1075) := by
    simp only [Double.magnitude, Nat.pow_eq, hrest, if_neg hfinite]
  unfold leastUnits
  by_cases hexpo : a.bits.toNat / 2 ^ 52 = 0
  · rw [if_pos hexpo] at hmagnitude ⊢
    have hunits : a.bits.toNat % 2 ^ 52 =
        a.bits.toNat % 2 ^ 52 * 2 ^ ((-1074 : Int) + 1074).toNat := (Nat.mul_one _).symm
    rw [hunits]
    exact fraction?_finite hmagnitude le_rfl
  · rw [if_neg hexpo] at hmagnitude ⊢
    have hsteps : ((a.bits.toNat / 2 ^ 52 : Nat) - 1075 + 1074 : Int).toNat =
        a.bits.toNat / 2 ^ 52 - 1 := by omega
    rw [← hsteps]
    exact fraction?_finite hmagnitude (by omega)

theorem mul_le_of_bits_le (ha : a.IsAmount) (hb : b.IsAmount) (h : a.bits ≤ b.bits)
    {n k n' k' : Nat} (hfa : a.fraction? = some (n, k)) (hfb : b.fraction? = some (n', k')) :
    n * k' ≤ n' * k := by
  obtain ⟨_, _, ha, hk, hna⟩ := ha.exists_fraction
  obtain ⟨_, _, hb, hk', hnb⟩ := hb.exists_fraction
  cases hfa.symm.trans ha
  cases hfb.symm.trans hb
  have hunits := leastUnits_mono (UInt64.le_iff_toNat_le.mp h)
  apply Nat.le_of_mul_le_mul_right _ (Nat.two_pow_pos 1074)
  calc n * k' * 2 ^ 1074 = leastUnits a.bits.toNat * (k * k') := by
        rw [Nat.mul_right_comm, hna, Nat.mul_assoc]
    _ ≤ leastUnits b.bits.toNat * (k * k') := Nat.mul_le_mul_right _ hunits
    _ = n' * k * 2 ^ 1074 := by rw [Nat.mul_right_comm, hnb, Nat.mul_assoc, Nat.mul_comm k' k]

private theorem isNegative (h : a.IsAmount) : a.isNegative = false := by
  have hlimit : a.bits.toNat < 0x7FF * 2 ^ 52 := h
  have hbits : ¬ (0x8000000000000000 : UInt64) ≤ a.bits := by
    rw [UInt64.le_iff_toNat_le]
    simp
    omega
  exact decide_eq_false hbits

private theorem bits_neg (h : a.IsAmount) : (neg a).bits.toNat = a.bits.toNat + 2 ^ 63 := by
  have hlimit : a.bits.toNat < 0x7FF * 2 ^ 52 := h
  have hlt : a.bits.toNat < 2 ^ 63 := by omega
  rw [← xor_two_pow hlt]
  exact UInt64.toNat_xor _ _

private theorem isNegative_neg (h : a.IsAmount) : (neg a).isNegative = true := by
  have hbits : (0x8000000000000000 : UInt64) ≤ (neg a).bits := by
    rw [UInt64.le_iff_toNat_le, h.bits_neg]
    simp
  exact decide_eq_true hbits

private theorem fraction?_neg (h : a.IsAmount) : (neg a).fraction? = a.fraction? := by
  simp only [fraction?, magnitude, h.bits_neg, Nat.pow_eq, Nat.add_mod_right]

/-- A product of amounts is the rounded product of their quotients. -/
theorem mul_eq (ha : a.IsAmount) (hb : b.IsAmount) {n k n' k' : Nat}
    (hfa : a.fraction? = some (n, k)) (hfb : b.fraction? = some (n', k')) :
    mul a b = ofRatio false (n * n') (k * k') := by
  simp only [mul, hfa, hfb, ha.isNegative, hb.isNegative, bne_self_eq_false]

private theorem sub_eq (ha : a.IsAmount) (hb : b.IsAmount) (h : b.bits ≤ a.bits) {n k n' k' : Nat}
    (hfa : a.fraction? = some (n, k)) (hfb : b.fraction? = some (n', k')) :
    sub a b = ofRatio false (n * k' - n' * k) (k * k') := by
  have hle : n' * k ≤ n * k' := hb.mul_le_of_bits_le ha h hfb hfa
  have hnum : signedNumerator false (n * k') + signedNumerator true (n' * k) =
      ((n * k' - n' * k : Nat) : Int) := by
    simp only [signedNumerator, if_pos, Bool.false_eq_true, if_false]
    omega
  simp only [sub, add, hfa, hb.fraction?_neg, hfb, ha.isNegative, hb.isNegative_neg, hnum]
  generalize n * k' - n' * k = m
  by_cases hm : m = 0
  · subst hm
    rfl
  · have hpos : ¬ (m : Int) < 0 := by omega
    rw [if_neg (by omega), decide_eq_false hpos, Int.natAbs_natCast]

private theorem of_le (h : b.IsAmount) (hab : a.bits ≤ b.bits) : a.IsAmount :=
  Nat.lt_of_le_of_lt (UInt64.le_iff_toNat_le.mp hab) h

end IsAmount

variable {a b c d : Double}

theorem mul_mono (hc : c.IsAmount) (hd : d.IsAmount) (hac : a.bits ≤ c.bits)
    (hbd : b.bits ≤ d.bits) : (mul a b).bits ≤ (mul c d).bits := by
  have ha := hc.of_le hac
  have hb := hd.of_le hbd
  obtain ⟨na, ka, hfa, hka, -⟩ := ha.exists_fraction
  obtain ⟨nb, kb, hfb, hkb, -⟩ := hb.exists_fraction
  obtain ⟨nc, kc, hfc, hkc, -⟩ := hc.exists_fraction
  obtain ⟨nd, kd, hfd, hkd, -⟩ := hd.exists_fraction
  rw [ha.mul_eq hb hfa hfb, hc.mul_eq hd hfc hfd]
  apply ofRatio_mono (Nat.mul_pos hka hkb) (Nat.mul_pos hkc hkd)
  calc na * nb * (kc * kd) = na * kc * (nb * kd) := by ring
    _ ≤ nc * ka * (nd * kb) :=
      Nat.mul_le_mul (ha.mul_le_of_bits_le hc hac hfa hfc) (hb.mul_le_of_bits_le hd hbd hfb hfd)
    _ = nc * nd * (ka * kb) := by ring

theorem sub_anti (hc : c.IsAmount) (hac : a.bits ≤ c.bits) (hba : b.bits ≤ a.bits) :
    (sub c a).bits ≤ (sub c b).bits := by
  have ha := hc.of_le hac
  have hb := ha.of_le hba
  obtain ⟨na, ka, hfa, hka, -⟩ := ha.exists_fraction
  obtain ⟨nb, kb, hfb, hkb, -⟩ := hb.exists_fraction
  obtain ⟨nc, kc, hfc, hkc, -⟩ := hc.exists_fraction
  rw [hc.sub_eq ha hac hfc hfa, hc.sub_eq hb (UInt64.le_trans hba hac) hfc hfb]
  apply ofRatio_mono (Nat.mul_pos hkc hka) (Nat.mul_pos hkc hkb)
  rw [Nat.sub_mul, Nat.sub_mul]
  have hwhole : nc * ka * (kc * kb) = nc * kb * (kc * ka) := by ring
  have htaken : nb * kc * (kc * ka) ≤ na * kc * (kc * kb) := by
    calc nb * kc * (kc * ka) = nb * ka * (kc * kc) := by ring
      _ ≤ na * kb * (kc * kc) :=
        Nat.mul_le_mul_right _ (hb.mul_le_of_bits_le ha hba hfb hfa)
      _ = na * kc * (kc * kb) := by ring
  rw [hwhole]
  exact Nat.sub_le_sub_left htaken _

end SceneBook.Double
