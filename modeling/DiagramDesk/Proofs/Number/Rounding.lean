import DiagramDesk.Number.Binary
import Mathlib.Algebra.Order.Field.Power
import Mathlib.Algebra.Order.Field.Rat
import Mathlib.Data.Rat.Cast.Order
import Mathlib.Tactic.FieldSimp
import Mathlib.Tactic.Linarith
import Mathlib.Tactic.Ring

/-!
Rounding to a binary format. A ratio that is nearer to a number of the format than to its
neighbours is rounded to the pattern of that number. The steps between numbers double at each power
of two, so there half a step up is twice as far as half a step down.
-/
namespace DiagramDesk.Binary

theorem two_zpow_pos (q : ℤ) : (0 : ℚ) < 2 ^ q := zpow_pos (by norm_num) q

theorem two_zpow_succ (q : ℤ) : (2 : ℚ) ^ (q + 1) = 2 * 2 ^ q := by
  rw [zpow_add_one₀ (by norm_num), mul_comm]

theorem two_zpow_le_iff {a b : ℤ} : (2 : ℚ) ^ a ≤ 2 ^ b ↔ a ≤ b :=
  zpow_le_zpow_iff_right₀ (by norm_num)

theorem two_zpow_lt_iff {a b : ℤ} : (2 : ℚ) ^ a < 2 ^ b ↔ a < b :=
  zpow_lt_zpow_iff_right₀ (by norm_num)

namespace Format

/-! ### The power of two that a ratio reaches -/

variable {n d : ℕ}

/-- Comparing shifted whole numbers compares the ratio with a power of two. -/
theorem reached_iff (hd : 0 < d) (e : ℤ) :
    (if 0 ≤ e then d <<< e.toNat ≤ n else d ≤ n <<< (-e).toNat) ↔ (2 : ℚ) ^ e ≤ n / d := by
  have hd' : (0 : ℚ) < d := by exact_mod_cast hd
  rw [le_div_iff₀ hd']
  split
  case isTrue he =>
    obtain ⟨k, rfl⟩ := Int.eq_ofNat_of_zero_le he
    rw [Int.toNat_natCast, Nat.shiftLeft_eq, zpow_natCast, mul_comm]
    exact_mod_cast Iff.rfl
  case isFalse he =>
    obtain ⟨k, hk⟩ := Int.eq_ofNat_of_zero_le (show 0 ≤ -e by omega)
    rw [hk, Int.toNat_natCast, Nat.shiftLeft_eq, show e = -(k : ℤ) by omega, zpow_neg,
      zpow_natCast, inv_mul_le_iff₀ (by positivity), mul_comm]
    exact_mod_cast Iff.rfl

/-- The logarithms of both parts leave two candidates. -/
theorem ratio_bracket (hn : 0 < n) (hd : 0 < d) :
    (2 : ℚ) ^ ((Nat.log2 n : ℤ) - Nat.log2 d - 1) ≤ n / d ∧
      (n / d : ℚ) < 2 ^ ((Nat.log2 n : ℤ) - Nat.log2 d + 1) := by
  have hd' : (0 : ℚ) < d := by exact_mod_cast hd
  have hnlow : (2 : ℚ) ^ (Nat.log2 n : ℤ) ≤ n := by
    rw [zpow_natCast]
    exact_mod_cast Nat.log2_self_le hn.ne'
  have hnhigh : (n : ℚ) < 2 ^ ((Nat.log2 n : ℤ) + 1) := by
    have h : n < 2 ^ (Nat.log2 n + 1) := Nat.lt_log2_self
    exact_mod_cast h
  have hdlow : (2 : ℚ) ^ (Nat.log2 d : ℤ) ≤ d := by
    rw [zpow_natCast]
    exact_mod_cast Nat.log2_self_le hd.ne'
  have hdhigh : (d : ℚ) < 2 ^ ((Nat.log2 d : ℤ) + 1) := by
    have h : d < 2 ^ (Nat.log2 d + 1) := Nat.lt_log2_self
    exact_mod_cast h
  constructor
  · rw [le_div_iff₀ hd']
    calc (2 : ℚ) ^ ((Nat.log2 n : ℤ) - Nat.log2 d - 1) * d
        ≤ 2 ^ ((Nat.log2 n : ℤ) - Nat.log2 d - 1) * 2 ^ ((Nat.log2 d : ℤ) + 1) :=
          mul_le_mul_of_nonneg_left hdhigh.le (two_zpow_pos _).le
      _ = 2 ^ (Nat.log2 n : ℤ) := by rw [← zpow_add₀ (by norm_num)]; congr 1; ring
      _ ≤ n := hnlow
  · rw [div_lt_iff₀ hd']
    calc (n : ℚ) < 2 ^ ((Nat.log2 n : ℤ) + 1) := hnhigh
      _ = 2 ^ ((Nat.log2 n : ℤ) - Nat.log2 d + 1) * 2 ^ (Nat.log2 d : ℤ) := by
          rw [← zpow_add₀ (by norm_num)]; congr 1; ring
      _ ≤ 2 ^ ((Nat.log2 n : ℤ) - Nat.log2 d + 1) * d :=
          mul_le_mul_of_nonneg_left hdlow (two_zpow_pos _).le

theorem magnitude_spec (hn : 0 < n) (hd : 0 < d) :
    (2 : ℚ) ^ magnitude n d ≤ n / d ∧ (n / d : ℚ) < 2 ^ (magnitude n d + 1) := by
  obtain ⟨habove, hbelow⟩ := ratio_bracket hn hd
  unfold magnitude
  simp only [reached_iff hd]
  split
  case isTrue h => exact ⟨h, hbelow⟩
  case isFalse h => exact ⟨habove, by rw [sub_add_cancel]; exact not_le.mp h⟩

/-- A ratio between two neighbouring powers of two reaches the lower one. -/
theorem magnitude_eq (hn : 0 < n) (hd : 0 < d) {e : ℤ} (hlow : (2 : ℚ) ^ e ≤ n / d)
    (hhigh : (n / d : ℚ) < 2 ^ (e + 1)) : magnitude n d = e := by
  obtain ⟨hreached, hnext⟩ := magnitude_spec hn hd
  have h1 := two_zpow_lt_iff.mp (hlow.trans_lt hnext)
  have h2 := two_zpow_lt_iff.mp (hreached.trans_lt hhigh)
  omega

/-! ### The nearest whole number -/

/-- A quotient is rounded to the whole number that is at most half away; at half exactly, to the
even one. -/
theorem roundQuotient_eq (hd : 0 < d) {m : ℕ} (hlow : (m - 1 / 2 : ℚ) ≤ n / d)
    (hhigh : (n / d : ℚ) ≤ m + 1 / 2)
    (hodd : m % 2 = 1 → (m - 1 / 2 : ℚ) < n / d ∧ (n / d : ℚ) < m + 1 / 2) :
    roundQuotient n d = m := by
  have hd' : (0 : ℚ) < d := by exact_mod_cast hd
  simp only [le_div_iff₀ hd', div_le_iff₀ hd', lt_div_iff₀ hd', div_lt_iff₀ hd'] at hlow hhigh hodd
  have hlow' : 2 * m * d ≤ 2 * n + d := by
    have h : (2 * m * d : ℚ) ≤ 2 * n + d := by linarith
    exact_mod_cast h
  have hhigh' : 2 * n ≤ 2 * m * d + d := by
    have h : (2 * n : ℚ) ≤ 2 * m * d + d := by linarith
    exact_mod_cast h
  have hodd' : m % 2 = 1 → 2 * m * d < 2 * n + d ∧ 2 * n < 2 * m * d + d := fun h => by
    have h1 : (2 * m * d : ℚ) < 2 * n + d := by linarith [(hodd h).1]
    have h2 : (2 * n : ℚ) < 2 * m * d + d := by linarith [(hodd h).2]
    exact ⟨by exact_mod_cast h1, by exact_mod_cast h2⟩
  have hdiv := Nat.div_add_mod n d
  have hmod := Nat.mod_lt n hd
  unfold roundQuotient
  generalize n / d = q at *
  generalize n % d = r at *
  have hle : m ≤ q + 1 := by
    by_contra h
    have := Nat.mul_le_mul_right d (show q + 2 ≤ m by omega)
    linarith
  have hge : q ≤ m := by
    by_contra h
    have := Nat.mul_le_mul_right d (show m + 1 ≤ q by omega)
    linarith
  obtain rfl | rfl : m = q ∨ m = q + 1 := by omega
  · have hhalf : 2 * r ≤ d := by linarith
    have htie : m % 2 = 1 → 2 * r < d := fun h => by linarith [(hodd' h).2]
    dsimp only
    split_ifs <;> omega
  · have hhalf : d ≤ 2 * r := by linarith
    have htie : (q + 1) % 2 = 1 → d < 2 * r := fun h => by linarith [(hodd' h).1]
    dsimp only
    split_ifs <;> omega

/-- Rounding a ratio to a multiple of a power of two. -/
theorem roundQuotient_scaled (hd : 0 < d) (q : ℤ) {m : ℕ}
    (hlow : (m - 1 / 2 : ℚ) * 2 ^ q ≤ n / d) (hhigh : (n / d : ℚ) ≤ (m + 1 / 2) * 2 ^ q)
    (hodd : m % 2 = 1 → (m - 1 / 2 : ℚ) * 2 ^ q < n / d ∧ (n / d : ℚ) < (m + 1 / 2) * 2 ^ q) :
    (if 0 ≤ q then roundQuotient n (d <<< q.toNat) else roundQuotient (n <<< (-q).toNat) d) =
      m := by
  simp only [← le_div_iff₀ (two_zpow_pos q), ← div_le_iff₀ (two_zpow_pos q),
    ← lt_div_iff₀ (two_zpow_pos q), ← div_lt_iff₀ (two_zpow_pos q)] at hlow hhigh hodd
  split
  case isTrue hq =>
    obtain ⟨k, rfl⟩ := Int.eq_ofNat_of_zero_le hq
    rw [Int.toNat_natCast, Nat.shiftLeft_eq]
    have hshift : (n / d : ℚ) / 2 ^ (k : ℤ) = n / ((d * 2 ^ k : ℕ) : ℚ) := by
      rw [zpow_natCast, div_div]; push_cast; rfl
    rw [hshift] at hlow hhigh hodd
    exact roundQuotient_eq (by positivity) hlow hhigh hodd
  case isFalse hq =>
    obtain ⟨k, hk⟩ := Int.eq_ofNat_of_zero_le (show 0 ≤ -q by omega)
    obtain rfl : q = -(k : ℤ) := by omega
    rw [hk, Int.toNat_natCast, Nat.shiftLeft_eq]
    have hshift : (n / d : ℚ) / 2 ^ (-(k : ℤ)) = ((n * 2 ^ k : ℕ) : ℚ) / d := by
      rw [zpow_neg, zpow_natCast, div_inv_eq_mul, div_mul_eq_mul_div]; push_cast; rfl
    rw [hshift] at hlow hhigh hodd
    exact roundQuotient_eq hd hlow hhigh hodd

/-! ### The nearest number of a format -/

variable {f : Format} {m : ℕ} {q : ℤ}

/-- A mantissa and a power that some pattern stands for: the mantissa fits, and it has all its
places unless the power is the lowest one. -/
structure Canonical (f : Format) (m : ℕ) (q : ℤ) : Prop where
  fits : m < 2 ^ (f.fraction + 1)
  lowest : f.lowest ≤ q
  full : f.lowest < q → 2 ^ f.fraction ≤ m

def pattern (f : Format) (m : ℕ) (q : ℤ) : ℕ := (q - f.lowest).toNat <<< f.fraction + m

/-- The quarters of a step that belong to a number on the side of zero. -/
def quartersBelow (f : Format) (m : ℕ) (q : ℤ) : ℕ :=
  if m = 1 <<< f.fraction ∧ f.lowest < q then 1 else 2

/-- What is nearest to a number of the format: at most half a step above it, and at most half a
step below it, where the step is half as long below a power of two. The ends belong to numbers with
an even mantissa. -/
structure Near (f : Format) (m : ℕ) (q : ℤ) (r : ℚ) : Prop where
  low : (m - f.quartersBelow m q / 4 : ℚ) * 2 ^ q ≤ r
  high : r ≤ (m + 1 / 2) * 2 ^ q
  odd : m % 2 = 1 →
    (m - f.quartersBelow m q / 4 : ℚ) * 2 ^ q < r ∧ r < (m + 1 / 2) * 2 ^ q

/-- Below a power of two above the lowest one, a number is the nearest one only if it is that power
of two. -/
theorem Near.eq_of_lt {r : ℚ} (h : f.Near m q r) (hm : f.Canonical m q) (hq : f.lowest < q)
    (hr : r < 2 ^ (q + f.fraction)) : m = 2 ^ f.fraction ∧ (m - 1 / 4 : ℚ) * 2 ^ q ≤ r := by
  have hfull := hm.full hq
  have hpow := two_zpow_pos q
  rw [zpow_add₀ (by norm_num), zpow_natCast] at hr
  have heq : m = 2 ^ f.fraction := by
    by_contra hne
    have hgt : ((2 : ℚ) ^ f.fraction + 1) ≤ m := by
      exact_mod_cast (show 2 ^ f.fraction + 1 ≤ m by omega)
    have hlow := h.low
    rw [quartersBelow, if_neg (by rw [Nat.shiftLeft_eq, one_mul]; exact fun h => hne h.1)] at hlow
    push_cast at hlow
    nlinarith
  refine ⟨heq, ?_⟩
  have hlow := h.low
  rw [quartersBelow, if_pos ⟨by rw [Nat.shiftLeft_eq, one_mul]; exact heq, hq⟩] at hlow
  simpa using hlow

theorem quartersBelow_le (f : Format) (m : ℕ) (q : ℤ) : f.quartersBelow m q ≤ 2 := by
  unfold quartersBelow; split <;> omega

/-- A ratio is rounded to the pattern of the number that it is nearest to. -/
theorem roundRatio_eq (hm : f.Canonical m q) (hfinite : f.pattern m q < f.infinity) (hn : 0 < n)
    (hd : 0 < d) (h : f.Near m q (n / d)) : f.roundRatio n d = f.pattern m q := by
  have hpow := two_zpow_pos q
  have hbelow : (f.quartersBelow m q : ℚ) ≤ 2 := by exact_mod_cast quartersBelow_le f m q
  obtain ⟨hreached, hnext⟩ := magnitude_spec hn hd
  -- the ratio stays below twice the numbers with this power
  have hsmall : (n / d : ℚ) < 2 ^ (q + f.fraction + 1) := by
    have hfits : (m + 1 : ℚ) ≤ 2 ^ (f.fraction + 1) := by exact_mod_cast hm.fits
    rw [add_assoc, zpow_add₀ (by norm_num), show ((f.fraction : ℤ) + 1) = ((f.fraction + 1 : ℕ) : ℤ)
      by push_cast; rfl, zpow_natCast]
    nlinarith [h.high]
  have hmag : magnitude n d < q + f.fraction + 1 := two_zpow_lt_iff.mp (hreached.trans_lt hsmall)
  have hgood : n ≠ 0 ∧ d ≠ 0 := ⟨hn.ne', hd.ne'⟩
  unfold roundRatio
  rw [if_neg (by omega)]
  dsimp only
  by_cases hreach : f.lowest = q ∨ (2 : ℚ) ^ (q + f.fraction) ≤ n / d
  · -- the step is that of the number
    have hpower : max f.lowest (magnitude n d - f.fraction) = q := by
      have hlowest := hm.lowest
      rcases hreach with hq | hreach
      · omega
      · have := two_zpow_lt_iff.mp (hreach.trans_lt hnext)
        omega
    rw [hpower, roundQuotient_scaled hd q (m := m) (by nlinarith [h.low]) h.high]
    · exact min_eq_right hfinite.le
    · intro hodd
      obtain ⟨hlow, hhigh⟩ := h.odd hodd
      exact ⟨by nlinarith, hhigh⟩
  · -- the ratio lies below a power of two, with a step half as long
    obtain ⟨hq, hlt⟩ := not_or.mp hreach
    have hlt := not_le.mp hlt
    have hq : f.lowest < q := lt_of_le_of_ne hm.lowest hq
    obtain ⟨rfl, hlow⟩ := h.eq_of_lt hm hq hlt
    have hstep : (2 : ℚ) ^ q = 2 * 2 ^ (q - 1) := by rw [← two_zpow_succ, sub_add_cancel]
    rw [zpow_add₀ (by norm_num), zpow_natCast] at hlt
    rw [hstep] at hlow hlt hpow
    push_cast at hlow
    have hmag : magnitude n d = q - 1 + f.fraction := by
      refine magnitude_eq hn hd ?_ ?_
      · rw [zpow_add₀ (by norm_num), zpow_natCast]
        have : (1 : ℚ) ≤ 2 ^ f.fraction := one_le_pow₀ (by norm_num)
        nlinarith
      · rw [two_zpow_succ, zpow_add₀ (by norm_num), zpow_natCast]
        linarith
    rw [hmag, add_sub_cancel_right, max_eq_right (by omega),
      roundQuotient_scaled hd (q - 1) (m := 2 ^ (f.fraction + 1))]
    · have hsame : (q - 1 - f.lowest).toNat <<< f.fraction + 2 ^ (f.fraction + 1) =
          f.pattern (2 ^ f.fraction) q := by
        rw [pattern, show (q - f.lowest).toNat = (q - 1 - f.lowest).toNat + 1 by omega]
        simp only [Nat.shiftLeft_eq]
        ring
      rw [hsame, min_eq_right hfinite.le]
    · push_cast
      rw [pow_succ]
      linarith
    · push_cast
      rw [pow_succ]
      linarith
    · intro hodd
      omega

/-! ### Patterns of numbers -/

/-- The number of a pattern without a sign is one of the format, and the pattern is that of the
number. -/
theorem decode_finite {bits : ℕ} (hbits : bits < 2 * f.signBit)
    (h : f.decode bits = .finite false m q) :
    f.Canonical m q ∧ f.pattern m q = bits ∧ bits < f.infinity := by
  have hfraction := Nat.mod_lt bits (Nat.two_pow_pos f.fraction)
  have hsplit := Nat.div_add_mod bits (2 ^ f.fraction)
  simp only [decode, signBit, Nat.shiftLeft_eq, Nat.shiftRight_eq_div_pow, one_mul] at h hbits
  -- the bit of the sign is not set
  have hclear : bits / 2 ^ (f.fraction + f.exponent) % 2 ≠ 1 := by
    split_ifs at h <;> simp only [Value.finite.injEq, beq_eq_false_iff_ne] at h <;> exact h.1
  have hsign : bits / 2 ^ (f.fraction + f.exponent) = 0 := by
    have hlt : bits / 2 ^ (f.fraction + f.exponent) < 2 :=
      Nat.div_lt_of_lt_mul (by rw [mul_comm]; exact hbits)
    generalize bits / 2 ^ (f.fraction + f.exponent) = sign at *
    omega
  have hexponent : bits / 2 ^ f.fraction < 2 ^ f.exponent := by
    rw [Nat.div_eq_zero_iff, pow_add] at hsign
    exact Nat.div_lt_of_lt_mul (hsign.resolve_left (by positivity))
  rw [Nat.mod_eq_of_lt hexponent] at h
  have hinfinite : f.infinity = 2 ^ f.fraction * (2 ^ f.exponent - 1) := by
    rw [infinity, Nat.shiftLeft_eq, Nat.shiftLeft_eq, one_mul, mul_comm]
  generalize bits / 2 ^ f.fraction = e at *
  have hroom : e ≠ 2 ^ f.exponent - 1 → 2 ^ f.fraction * (e + 1) ≤ f.infinity := fun hne => by
    rw [hinfinite]
    exact Nat.mul_le_mul_left _ (by omega)
  split_ifs at h with htop hreal hzero
  · -- a number at the lowest power
    obtain ⟨-, rfl, rfl⟩ := Value.finite.inj h
    have := hroom htop
    subst hzero
    refine ⟨⟨by rw [pow_succ]; omega, le_rfl, fun hlt => absurd hlt (lt_irrefl _)⟩, ?_, by omega⟩
    rw [pattern, sub_self]
    simpa using hsplit
  · -- a number with all places
    obtain ⟨-, rfl, rfl⟩ := Value.finite.inj h
    have := hroom htop
    obtain ⟨k, rfl⟩ := Nat.exists_eq_succ_of_ne_zero hzero
    refine ⟨⟨by rw [pow_succ]; omega, by omega, fun _ => Nat.le_add_left _ _⟩, ?_, ?_⟩
    · rw [pattern, Nat.succ_sub_one, add_sub_cancel_left, Int.toNat_natCast, Nat.shiftLeft_eq]
      rw [Nat.succ_eq_add_one] at hsplit
      linarith
    · rw [Nat.succ_eq_add_one] at hsplit this
      linarith

end Format

end DiagramDesk.Binary
