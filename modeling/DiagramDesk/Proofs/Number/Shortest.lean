import DiagramDesk.Number.Shortest
import DiagramDesk.Proofs.Number.Rounding

/-!
The shortest decimal of a number is nearest to that number. The interval of a number holds just
what is nearest to it, a grid of decimals with a step shorter than half a binary step has a point
in it, and the search comes down to such a grid.
-/
namespace DiagramDesk.Binary

def Decimal.value (x : Decimal) : ℚ := x.digits * 10 ^ x.power

namespace Format

variable {f : Format} {m n d c : ℕ} {q p : ℤ}

/-! ### Intervals -/

theorem two_zpow_quarter (q : ℤ) : (2 : ℚ) ^ q = 4 * 2 ^ (q - 2) := by
  rw [zpow_sub₀ (by norm_num)]
  norm_num
  ring

/-- A power of two as the ratio of the scale of an interval and its denominator. -/
theorem scale_eq (q : ℤ) :
    ((if 2 ≤ q then 1 <<< (q - 2).toNat else 1 : ℕ) : ℚ) =
      2 ^ (q - 2) * ((if 2 ≤ q then 1 else 1 <<< (2 - q).toNat : ℕ) : ℚ) := by
  split
  case isTrue hq =>
    obtain ⟨k, hk⟩ := Int.eq_ofNat_of_zero_le (show 0 ≤ q - 2 by omega)
    rw [hk, Int.toNat_natCast, Nat.shiftLeft_eq, zpow_natCast]
    push_cast
    ring
  case isFalse hq =>
    obtain ⟨k, hk⟩ := Int.eq_ofNat_of_zero_le (show 0 ≤ 2 - q by omega)
    rw [hk, Int.toNat_natCast, Nat.shiftLeft_eq, show q - 2 = -(k : ℤ) by omega, zpow_neg,
      zpow_natCast]
    push_cast
    field_simp

theorem denominator_pos (f : Format) (m : ℕ) (q : ℤ) : 0 < (f.interval m q).denominator := by
  simp only [interval, Nat.shiftLeft_eq]
  split <;> positivity

theorem low_eq (hm : 0 < m) : ((f.interval m q).low : ℚ) =
    (m - f.quartersBelow m q / 4) * 2 ^ q * (f.interval m q).denominator := by
  have hle : f.quartersBelow m q ≤ 4 * m := by
    have := quartersBelow_le f m q
    omega
  have hlow : (f.interval m q).low =
      (4 * m - f.quartersBelow m q) * (if 2 ≤ q then 1 <<< (q - 2).toNat else 1) := rfl
  rw [hlow, Nat.cast_mul, scale_eq, Nat.cast_sub hle, two_zpow_quarter q]
  simp only [interval]
  push_cast
  ring

theorem mid_eq : ((f.interval m q).mid : ℚ) = m * 2 ^ q * (f.interval m q).denominator := by
  simp only [interval]
  rw [Nat.cast_mul, scale_eq, two_zpow_quarter q]
  push_cast
  ring

theorem high_eq : ((f.interval m q).high : ℚ) =
    (m + 1 / 2) * 2 ^ q * (f.interval m q).denominator := by
  simp only [interval]
  rw [Nat.cast_mul, scale_eq, two_zpow_quarter q]
  push_cast
  ring

/-- Comparing a ratio with an end of an interval, without a division. -/
theorem end_le_iff {a b : ℕ} {x : ℚ} (hb : 0 < b) (hd : 0 < d) (ha : (a : ℚ) = x * b) :
    (a * d ≤ n * b ↔ x ≤ n / d) ∧ (n * b ≤ a * d ↔ (n / d : ℚ) ≤ x) := by
  have hb' : (0 : ℚ) < b := by exact_mod_cast hb
  have hd' : (0 : ℚ) < d := by exact_mod_cast hd
  rw [le_div_iff₀ hd', div_le_iff₀ hd', ← mul_le_mul_iff_of_pos_right hb',
    ← mul_le_mul_iff_of_pos_right hb' (b := (n : ℚ)), mul_right_comm, ← ha]
  exact ⟨by exact_mod_cast Iff.rfl, by exact_mod_cast Iff.rfl⟩

/-- The interval of a number holds what is nearest to the number. -/
theorem holds_iff (hm : 0 < m) (hd : 0 < d) :
    (f.interval m q).holds n d = true ↔ f.Near m q (n / d) := by
  have hden := denominator_pos f m q
  obtain ⟨hlow, hlow'⟩ := end_le_iff (n := n) hden hd (low_eq (f := f) (q := q) hm)
  obtain ⟨hhigh', hhigh⟩ := end_le_iff (n := n) hden hd (high_eq (f := f) (m := m) (q := q))
  have hclosed : (f.interval m q).closed = (m % 2 == 0) := rfl
  rw [Interval.holds, hclosed]
  cases hpar : m % 2 == 0 with
  | true =>
    have heven := beq_iff_eq.mp hpar
    simp only [if_true, Bool.and_eq_true, decide_eq_true_eq, hlow, hhigh]
    exact ⟨fun h => ⟨h.1, h.2, fun hodd => by omega⟩, fun h => ⟨h.low, h.high⟩⟩
  | false =>
    have hodd : m % 2 = 1 := by
      have := beq_eq_false_iff_ne.mp hpar
      omega
    simp only [Bool.false_eq_true, if_false, Bool.and_eq_true, decide_eq_true_eq, ← not_le, hlow',
      hhigh']
    simp only [not_le]
    exact ⟨fun h => ⟨h.1.le, h.2.le, fun _ => h⟩, fun h => h.odd hodd⟩

/-! ### Grids -/

theorem ten_zpow_pos (p : ℤ) : (0 : ℚ) < 10 ^ p := zpow_pos (by norm_num) p

def up (p : ℤ) : ℕ := if 0 ≤ p then Nat.pow 10 p.toNat else 1

def down (p : ℤ) : ℕ := if 0 ≤ p then 1 else Nat.pow 10 (-p).toNat

theorem up_pos (p : ℤ) : 0 < up p := by
  unfold up
  split
  · exact Nat.pow_pos (by norm_num)
  · exact Nat.one_pos

theorem down_pos (p : ℤ) : 0 < down p := by
  unfold down
  split
  · exact Nat.one_pos
  · exact Nat.pow_pos (by norm_num)

theorem ten_zpow_eq (p : ℤ) : (10 : ℚ) ^ p = up p / down p := by
  unfold up down
  split
  case isTrue hp =>
    obtain ⟨k, rfl⟩ := Int.eq_ofNat_of_zero_le hp
    simp
  case isFalse hp =>
    obtain ⟨k, hk⟩ := Int.eq_ofNat_of_zero_le (show 0 ≤ -p by omega)
    rw [hk, show p = -(k : ℤ) by omega]
    simp

/-- Whether a point of a grid is taken. -/
def good (i : Interval) (p : ℤ) (c : ℕ) : Bool := c != 0 && i.holds (c * up p) (down p)

/-- A point of a grid is taken if it is nearest to the number. -/
theorem good_iff (hm : 0 < m) :
    good (f.interval m q) p c = true ↔ 0 < c ∧ f.Near m q (c * 10 ^ p) := by
  rw [good, Bool.and_eq_true, holds_iff hm (down_pos p), ten_zpow_eq p, Nat.cast_mul,
    mul_div_assoc, bne_iff_ne, Nat.pos_iff_ne_zero]

theorem onGrid_eq (i : Interval) (p : ℤ) (c : ℕ)
    (hc : i.mid * down p / (i.denominator * up p) = c) :
    i.onGrid p =
      if good i p c && good i p (c + 1) then
        some (if 2 * (c * up p * i.denominator) + i.denominator * up p ≤ 2 * (i.mid * down p)
          then c + 1 else c)
      else if good i p c then some c
      else if good i p (c + 1) then some (c + 1)
      else none := by
  subst hc
  rfl

/-- What is found on a grid is nearest to the number. -/
theorem near_of_onGrid (hm : 0 < m) (h : (f.interval m q).onGrid p = some c) :
    0 < c ∧ f.Near m q (c * 10 ^ p) := by
  rw [onGrid_eq _ _ _ rfl] at h
  refine (good_iff hm).mp ?_
  split_ifs at h <;> cases h <;> simp_all

/-- The grid point that the search starts from is the last one that is not above the number. -/
theorem floor_spec
    (hc : (f.interval m q).mid * down p / ((f.interval m q).denominator * up p) = c) :
    (c : ℚ) * 10 ^ p ≤ m * 2 ^ q ∧ m * 2 ^ q < (c + 1 : ℚ) * 10 ^ p := by
  have hden : (0 : ℚ) < (f.interval m q).denominator := by exact_mod_cast denominator_pos f m q
  have hdown : (0 : ℚ) < down p := by exact_mod_cast down_pos p
  have hle := Nat.div_mul_le_self ((f.interval m q).mid * down p)
    ((f.interval m q).denominator * up p)
  have hlt := Nat.lt_div_mul_add (a := (f.interval m q).mid * down p)
    (Nat.mul_pos (denominator_pos f m q) (up_pos p))
  rw [hc] at hle hlt
  have hle' : (c : ℚ) * up p * (f.interval m q).denominator ≤
      m * 2 ^ q * down p * (f.interval m q).denominator := by
    rw [mul_right_comm _ (down p : ℚ), ← mid_eq, mul_assoc, mul_comm (up p : ℚ)]
    exact_mod_cast hle
  have hlt' : m * 2 ^ q * down p * ((f.interval m q).denominator : ℚ) <
      (c + 1 : ℚ) * up p * (f.interval m q).denominator := by
    rw [mul_right_comm _ (down p : ℚ), ← mid_eq, mul_assoc, mul_comm (up p : ℚ), add_one_mul]
    exact_mod_cast hlt
  rw [ten_zpow_eq, ← mul_div_assoc, ← mul_div_assoc, div_le_iff₀ hdown, lt_div_iff₀ hdown]
  exact ⟨le_of_mul_le_mul_right hle' hden, lt_of_mul_lt_mul_right hlt' hden.le⟩

/-- A grid with a step shorter than half a binary step has a point in the interval: the next one
above the number. -/
theorem onGrid_isSome (hm : 0 < m) (hfine : (10 : ℚ) ^ p < 2 ^ (q - 1)) :
    ((f.interval m q).onGrid p).isSome = true := by
  have hten := ten_zpow_pos p
  have htwo := two_zpow_pos q
  have hhalf : (2 : ℚ) ^ q = 2 * 2 ^ (q - 1) := by rw [← two_zpow_succ, sub_add_cancel]
  obtain ⟨c, hc⟩ :
    ∃ c, (f.interval m q).mid * down p / ((f.interval m q).denominator * up p) = c := ⟨_, rfl⟩
  have hnext : good (f.interval m q) p (c + 1) = true := by
    obtain ⟨hle, hlt⟩ := floor_spec hc
    refine (good_iff hm).mpr ⟨Nat.succ_pos c, ?_⟩
    have hbelow : (0 : ℚ) ≤ f.quartersBelow m q / 4 * 2 ^ q :=
      mul_nonneg (div_nonneg (Nat.cast_nonneg _) (by norm_num)) htwo.le
    push_cast
    have hlow : (m - f.quartersBelow m q / 4 : ℚ) * 2 ^ q < (c + 1) * 10 ^ p := by
      linarith
    have hhigh : ((c : ℚ) + 1) * 10 ^ p < (m + 1 / 2) * 2 ^ q := by
      linarith
    exact ⟨hlow.le, hhigh.le, fun _ => ⟨hlow, hhigh⟩⟩
  rw [onGrid_eq _ _ _ hc, hnext]
  cases good (f.interval m q) p c <;> rfl

/-! ### The search -/

/-- If some grid within the steps has a point in the interval, the search finds such a grid. -/
theorem onGrid_coarsest (i : Interval) {steps : ℕ} {p : ℤ} {k : ℕ} (hk : k < steps)
    (h : (i.onGrid (p - k)).isSome = true) :
    i.onGrid (i.coarsest steps p).power = some (i.coarsest steps p).digits := by
  induction steps generalizing p k with
  | zero => exact absurd hk (Nat.not_lt_zero k)
  | succ steps ih =>
    rw [Interval.coarsest]
    cases hp : i.onGrid p with
    | some c => exact hp
    | none =>
      obtain _ | k := k
      · rw [Nat.cast_zero, sub_zero, hp] at h
        cases h
      · refine ih (k := k) (by omega) ?_
        rwa [show p - 1 - (k : ℤ) = p - ((k + 1 : ℕ) : ℤ) by push_cast; ring]

theorem single_power_le (hfinite : single.pattern m q < single.infinity) : q ≤ 105 := by
  have hinfinity : single.infinity = 255 * 2 ^ 23 := by decide
  have hlowest : single.lowest = -149 := by decide
  have hfraction : single.fraction = 23 := rfl
  rw [pattern, Nat.shiftLeft_eq, hinfinity, hlowest, hfraction] at hfinite
  omega

/-- The search for a number of 32 bits comes down to a grid with a step shorter than half a binary
step. -/
theorem single_fine (hm : 0 < m) (h : single.Canonical m q)
    (hfinite : single.pattern m q < single.infinity) :
    (10 : ℚ) ^ ((q + Nat.log2 m) * 30103 / 100000 + 2 - 59) < 2 ^ (q - 1) := by
  have hlog : Nat.log2 m < 24 := (Nat.log2_lt hm.ne').mpr h.fits
  have hlow : -149 ≤ q := h.lowest
  have hhigh := single_power_le hfinite
  obtain ⟨a, ha⟩ := Int.eq_ofNat_of_zero_le
    (show 0 ≤ -((q + Nat.log2 m) * 30103 / 100000 + 2 - 59) by omega)
  have hbig : -(3 * (a : ℤ)) < q - 1 := by omega
  rw [show (q + Nat.log2 m) * 30103 / 100000 + 2 - 59 = -(a : ℤ) by omega]
  calc (10 : ℚ) ^ (-(a : ℤ)) = (10 ^ a)⁻¹ := by rw [zpow_neg, zpow_natCast]
    _ ≤ (8 ^ a)⁻¹ := inv_anti₀ (by positivity) (pow_le_pow_left₀ (by norm_num) (by norm_num) a)
    _ = 2 ^ (-(3 * (a : ℤ))) := by
        rw [zpow_neg, zpow_mul]
        norm_num
    _ < 2 ^ (q - 1) := two_zpow_lt_iff.mpr hbig

/-- The shortest decimal of a number of 32 bits above zero is nearest to the number. -/
theorem near_shortest (hm : 0 < m) (h : single.Canonical m q)
    (hfinite : single.pattern m q < single.infinity) :
    0 < (single.shortest m q).digits ∧ single.Near m q (single.shortest m q).value :=
  near_of_onGrid hm (onGrid_coarsest _ (show 59 < 60 by norm_num)
    (onGrid_isSome hm (single_fine hm h hfinite)))

end Format

/-! ### Zeros at the end -/

/-- Zeros at the end of the digits can be dropped. -/
theorem Decimal.value_reduce (steps : ℕ) (x : Decimal) : (x.reduce steps).value = x.value := by
  induction steps generalizing x with
  | zero => rfl
  | succ steps ih =>
    rw [reduce]
    split
    case isTrue h =>
      have hten : (x.digits : ℚ) = (x.digits / 10 : ℕ) * 10 := by
        exact_mod_cast (Nat.div_mul_cancel (Nat.dvd_of_mod_eq_zero h.1)).symm
      rw [ih, value, value, hten, zpow_add_one₀ (by norm_num)]
      ring
    case isFalse => rfl

theorem Decimal.digits_reduce_pos (steps : ℕ) {x : Decimal} (h : 0 < x.digits) :
    0 < (x.reduce steps).digits := by
  induction steps generalizing x with
  | zero => exact h
  | succ steps ih =>
    rw [reduce]
    split
    case isTrue hzero => exact ih (by dsimp only; omega)
    case isFalse => exact h

end DiagramDesk.Binary
