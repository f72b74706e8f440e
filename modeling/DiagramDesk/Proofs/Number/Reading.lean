import DiagramDesk.Number.Single
import DiagramDesk.Proofs.Number.Shortest
import Mathlib.Data.List.TakeWhile

/-!
Numbers come back from their texts. The text of a decimal spells the decimal, whether its point
stands inside the digits, in front of them or not at all, and the decimal of a number is rounded to
the number again.
-/
namespace DiagramDesk

/-! ### Whole numbers -/

theorem digits?_eq_some_iff {s : List Char} {n : ℕ} :
    digits? s = some n ↔
      s ≠ [] ∧ (∀ c ∈ s, c.isDigit = true) ∧ Nat.ofDigitChars 10 s 0 = n := by
  have hfold (s : List Char) (m : ℕ) : s.foldl (fun acc c => acc.bind fun n =>
      if c.isDigit then some (n * 10 + (c.toNat - 48)) else none) (some m) =
      if s.all Char.isDigit then some (Nat.ofDigitChars 10 s m) else none := by
    induction s generalizing m with
    | nil => rfl
    | cons c s ih =>
      rw [List.foldl_cons, Option.bind_some, List.all_cons]
      by_cases hc : c.isDigit = true
      · rw [if_pos hc, ih, hc, Bool.true_and, Nat.ofDigitChars_cons, Nat.mul_comm m 10]
        rfl
      · rw [if_neg hc, List.foldl_fixed' fun _ => rfl, if_neg (by simp [hc])]
  by_cases hs : s = []
  · simp [digits?, hs]
  · rw [digits?, if_neg (by simpa using hs), hfold, Option.ite_none_right_eq_some,
      Option.some.injEq, List.all_eq_true]
    simp [hs]

theorem digits?_eq {s : List Char} (hs : s ≠ []) (hd : ∀ c ∈ s, c.isDigit = true) :
    digits? s = some (Nat.ofDigitChars 10 s 0) :=
  digits?_eq_some_iff.mpr ⟨hs, hd, rfl⟩

/-- Without a plus sign in front, a number below the bound is nothing but digits. -/
theorem natBelow?_eq_some_iff {bound n : ℕ} {s : List Char} (h : s.head? ≠ some '+') :
    natBelow? bound s = some n ↔
      s ≠ [] ∧ (∀ c ∈ s, c.isDigit = true) ∧ Nat.ofDigitChars 10 s 0 = n ∧ n < bound := by
  have hbody : natBelow? bound s = (digits? s).filter (· < bound) := by
    unfold natBelow?
    split
    · exact absurd rfl h
    · rfl
  rw [hbody, Option.filter_eq_some_iff, digits?_eq_some_iff]
  simp [and_assoc]

theorem natBelow?_eq_none_iff {bound : ℕ} {s : List Char} (h : s.head? ≠ some '+') :
    natBelow? bound s = none ↔
      s = [] ∨ (∃ c ∈ s, c.isDigit = false) ∨ bound ≤ Nat.ofDigitChars 10 s 0 := by
  simp only [Option.eq_none_iff_forall_ne_some, ne_eq, natBelow?_eq_some_iff h]
  constructor
  · intro hnone
    by_contra! hread
    exact hnone _ ⟨hread.1, by simpa using hread.2.1, rfl, hread.2.2⟩
  · rintro hread n ⟨hne, hall, rfl, hlt⟩
    obtain hnil | ⟨c, hc, hdigit⟩ | hle := hread
    · exact hne hnil
    · exact absurd (hall c hc) (Bool.eq_false_iff.mp hdigit)
    · exact absurd hlt (Nat.not_lt.mpr hle)

theorem isDigit_of_mem_toDigits {n : ℕ} {c : Char} (hc : c ∈ Nat.toDigits 10 n) :
    c.isDigit = true :=
  Nat.isDigit_of_mem_toDigits (by norm_num) (by norm_num) hc

/-- A whole number below the bound comes back from its digits. -/
theorem natBelow?_toString {bound n : ℕ} (h : n < bound) :
    natBelow? bound (toString n).toList = some n := by
  rw [Nat.toString_eq_ofList_toDigits, String.toList_ofList]
  have hplus : (Nat.toDigits 10 n).head? ≠ some '+' := fun hhead =>
    absurd (isDigit_of_mem_toDigits (List.mem_of_mem_head? hhead)) (by decide)
  exact (natBelow?_eq_some_iff hplus).mpr
    ⟨Nat.toDigits_ne_nil, fun c => isDigit_of_mem_toDigits, Nat.ofDigitChars_ten_toDigits, h⟩

namespace Binary

/-! ### Decimals -/

theorem written?_whole {s : List Char} (hs : s ≠ []) (hd : ∀ c ∈ s, c.isDigit = true) :
    written? s = some ⟨s, 0, 0⟩ := by
  have htake : s.takeWhile Char.isDigit = s := List.takeWhile_eq_self_iff.mpr hd
  have hdrop : s.dropWhile Char.isDigit = [] := List.dropWhile_eq_nil_iff.mpr hd
  simp [written?, htake, hdrop, hs]

theorem written?_point {whole places : List Char} (hwhole : whole ≠ [])
    (hd : ∀ c ∈ whole, c.isDigit = true) (hp : ∀ c ∈ places, c.isDigit = true) :
    written? (whole ++ '.' :: places) = some ⟨whole ++ places, places.length, 0⟩ := by
  have htake : (whole ++ '.' :: places).takeWhile Char.isDigit = whole := by
    rw [List.takeWhile_append_of_pos hd]
    simp
  have hdrop : (whole ++ '.' :: places).dropWhile Char.isDigit = '.' :: places := by
    rw [List.dropWhile_append_of_pos hd]
    simp
  have htake' : places.takeWhile Char.isDigit = places := List.takeWhile_eq_self_iff.mpr hp
  have hdrop' : places.dropWhile Char.isDigit = [] := List.dropWhile_eq_nil_iff.mpr hp
  simp [written?, htake, hdrop, htake', hdrop', hwhole]

/-- A written number spells a number above zero. -/
def Written.Spells (w : Written) (r : ℚ) : Prop :=
  ∃ n, digits? w.digits = some n ∧ 0 < n ∧ n * 10 ^ (w.exponent - w.places) = r

def StartsWithDigit (s : List Char) : Prop := ∃ c rest, s = c :: rest ∧ c.isDigit = true

theorem startsWithDigit_append {s : List Char} (hs : s ≠ []) (hd : ∀ c ∈ s, c.isDigit = true)
    (rest : List Char) : StartsWithDigit (s ++ rest) := by
  obtain ⟨c, s, rfl⟩ := List.exists_cons_of_ne_nil hs
  exact ⟨c, s ++ rest, rfl, hd c List.mem_cons_self⟩

theorem isDigit_of_mem_replicate {k : ℕ} {c : Char} (hc : c ∈ List.replicate k '0') :
    c.isDigit = true := by
  rw [List.eq_of_mem_replicate hc]
  rfl

/-- Digits with zeros behind them. -/
theorem spells_whole {n : ℕ} (hn : 0 < n) (k : ℕ) :
    ∃ w, written? (Nat.toDigits 10 n ++ List.replicate k '0') = some w ∧
      w.Spells (n * 10 ^ (k : ℤ)) := by
  have hall : ∀ c ∈ Nat.toDigits 10 n ++ List.replicate k '0', c.isDigit = true :=
    fun c hc => (List.mem_append.mp hc).elim isDigit_of_mem_toDigits isDigit_of_mem_replicate
  have hne : Nat.toDigits 10 n ++ List.replicate k '0' ≠ [] :=
    List.append_ne_nil_of_left_ne_nil Nat.toDigits_ne_nil _
  refine ⟨_, written?_whole hne hall, 10 ^ k * n, ?_, by positivity, ?_⟩
  · rw [digits?_eq hne hall, Nat.ofDigitChars_append, Nat.ofDigitChars_ten_toDigits,
      Nat.ofDigitChars_replicate_zero]
  · push_cast
    rw [mul_one, zpow_natCast, mul_comm]

/-- Digits with zeros in front of them and a point inside. -/
theorem spells_point {n : ℕ} (hn : 0 < n) {k : ℕ} {padded : List Char}
    (hpadded : padded =
      List.replicate (k + 1 - (Nat.toDigits 10 n).length) '0' ++ Nat.toDigits 10 n) :
    StartsWithDigit (padded.take (padded.length - k) ++ '.' :: padded.drop (padded.length - k)) ∧
      ∃ w, written? (padded.take (padded.length - k) ++ '.' :: padded.drop (padded.length - k)) =
        some w ∧ w.Spells (n * 10 ^ (-(k : ℤ))) := by
  have hall : ∀ c ∈ padded, c.isDigit = true := fun c hc =>
    (List.mem_append.mp (hpadded ▸ hc)).elim isDigit_of_mem_replicate isDigit_of_mem_toDigits
  have hlength : k < padded.length := by
    rw [hpadded, List.length_append, List.length_replicate]
    omega
  -- the padding leaves a digit in front of the point
  have hwhole : padded.take (padded.length - k) ≠ [] := by
    rw [Ne, List.take_eq_nil_iff, not_or]
    exact ⟨by omega, List.ne_nil_of_length_pos (by omega)⟩
  have hwhole' : ∀ c ∈ padded.take (padded.length - k), c.isDigit = true :=
    fun c hc => hall c (List.mem_of_mem_take hc)
  refine ⟨startsWithDigit_append hwhole hwhole' _, _,
    written?_point hwhole hwhole' fun c hc => hall c (List.mem_of_mem_drop hc), n, ?_, hn, ?_⟩
  · rw [List.take_append_drop, digits?_eq (List.ne_nil_of_length_pos (by omega)) hall, hpadded,
      Nat.ofDigitChars_append, Nat.ofDigitChars_replicate_zero, mul_zero,
      Nat.ofDigitChars_ten_toDigits]
  · rw [List.length_drop, Nat.sub_sub_self hlength.le, zero_sub]

/-- The text of a decimal starts with a digit and spells the decimal. -/
theorem Decimal.text_spells {x : Decimal} (hx : 0 < x.digits) :
    StartsWithDigit x.text.toList ∧
      ∃ w, written? x.text.toList = some w ∧ w.Spells x.value := by
  unfold Decimal.text value
  split
  case isTrue hpower =>
    obtain ⟨k, hk⟩ := Int.eq_ofNat_of_zero_le hpower
    simp only [hk, Int.toNat_natCast, String.toList_ofList]
    exact ⟨startsWithDigit_append Nat.toDigits_ne_nil (fun c => isDigit_of_mem_toDigits) _,
      spells_whole hx k⟩
  case isFalse hpower =>
    obtain ⟨k, hk⟩ := Int.eq_ofNat_of_zero_le (show 0 ≤ -x.power by omega)
    simp only [hk, Int.toNat_natCast, String.toList_ofList]
    rw [show x.power = -(k : ℤ) by omega]
    exact spells_point hx rfl

/-- The text of a decimal is made of digits and a point. -/
theorem Decimal.mem_text (x : Decimal) (c : Char) (hc : c ∈ x.text.toList) :
    c.isDigit = true ∨ c = '.' := by
  unfold Decimal.text at hc
  split at hc
  case isTrue =>
    rw [String.toList_ofList, List.mem_append] at hc
    exact .inl (hc.elim isDigit_of_mem_toDigits isDigit_of_mem_replicate)
  case isFalse =>
    have hpadded {k : ℕ} (h : c ∈ List.replicate k '0' ++ Nat.toDigits 10 x.digits) :
        c.isDigit = true ∨ c = '.' :=
      .inl ((List.mem_append.mp h).elim isDigit_of_mem_replicate isDigit_of_mem_toDigits)
    rw [String.toList_ofList, List.mem_append, List.mem_cons] at hc
    obtain hc | rfl | hc := hc
    · exact hpadded (List.mem_of_mem_take hc)
    · exact .inr rfl
    · exact hpadded (List.mem_of_mem_drop hc)

/-! ### Rounding back -/

variable {f : Format} {m : ℕ} {q : ℤ}

theorem toDigits_length_bounds {n : ℕ} (hn : 0 < n) :
    (10 : ℚ) ^ (((Nat.toDigits 10 n).length : ℤ) - 1) ≤ n ∧
      (n : ℚ) < 10 ^ ((Nat.toDigits 10 n).length : ℤ) := by
  have hpos : 0 < (Nat.toDigits 10 n).length := Nat.length_toDigits_pos
  have hhigh : n < 10 ^ (Nat.toDigits 10 n).length :=
    (Nat.length_toDigits_le_iff (by norm_num) hpos).mp le_rfl
  refine ⟨?_, by rw [zpow_natCast]; exact_mod_cast hhigh⟩
  obtain ⟨k, hk⟩ := Nat.exists_eq_succ_of_ne_zero hpos.ne'
  rw [hk, Nat.succ_eq_add_one, Nat.cast_add_one, add_sub_cancel_right, zpow_natCast]
  obtain _ | k := k
  · rw [pow_zero]
    exact_mod_cast hn
  · have hlow : ¬n < 10 ^ (k + 1) := fun h =>
      absurd ((Nat.length_toDigits_le_iff (by norm_num) k.succ_pos).mpr h) (by omega)
    exact_mod_cast not_lt.mp hlow

theorem ten_zpow_lt_iff {a b : ℤ} : (10 : ℚ) ^ a < 10 ^ b ↔ a < b :=
  zpow_lt_zpow_iff_right₀ (by norm_num)

/-- A written number is rounded to the pattern of the number that it is nearest to, unless it is
far out of range. -/
theorem Format.ofWritten_eq {w : Written} {r : ℚ} (hw : w.Spells r) (hm : f.Canonical m q)
    (hfinite : f.pattern m q < f.infinity) (hnear : f.Near m q r) (hlow : (10 : ℚ) ^ (-400 : ℤ) ≤ r)
    (hhigh : r < 10 ^ (400 : ℤ)) : f.ofWritten w = f.pattern m q := by
  obtain ⟨n, hdigits, hn, rfl⟩ := hw
  obtain ⟨hfirst, hlast⟩ := toDigits_length_bounds hn
  have hten := Format.ten_zpow_pos (w.exponent - w.places)
  have hsmall : ¬((Nat.toDigits 10 n).length + (w.exponent - w.places) < -400) := fun h => by
    have hlt : (n : ℚ) * 10 ^ (w.exponent - w.places) <
        10 ^ ((Nat.toDigits 10 n).length + (w.exponent - w.places)) := by
      rw [zpow_add₀ (by norm_num)]
      exact mul_lt_mul_of_pos_right hlast hten
    exact absurd (hlow.trans_lt (hlt.trans (ten_zpow_lt_iff.mpr h))) (lt_irrefl _)
  have hlarge : ¬(400 < (Nat.toDigits 10 n).length + (w.exponent - w.places)) := fun h => by
    have hle : (10 : ℚ) ^ ((Nat.toDigits 10 n).length - 1 + (w.exponent - w.places)) ≤
        n * 10 ^ (w.exponent - w.places) := by
      rw [zpow_add₀ (by norm_num)]
      exact mul_le_mul_of_nonneg_right hfirst hten.le
    have := ten_zpow_lt_iff.mp (hle.trans_lt hhigh)
    omega
  have hn' : n ≠ 0 := hn.ne'
  simp only [Format.ofWritten, hdigits, Option.getD_some, hn', hsmall, hlarge, or_self, if_false]
  generalize w.exponent - w.places = p at *
  rw [Format.ten_zpow_eq] at hnear
  unfold Format.up Format.down at hnear
  split
  case isTrue hp =>
    simp only [hp, if_true] at hnear
    refine Format.roundRatio_eq hm hfinite (Nat.mul_pos hn (Nat.pow_pos (by norm_num)))
      Nat.one_pos ?_
    rwa [Nat.cast_mul, mul_div_assoc]
  case isFalse hp =>
    simp only [hp, if_false] at hnear
    refine Format.roundRatio_eq hm hfinite hn (Nat.pow_pos (by norm_num)) ?_
    rwa [Nat.cast_one, mul_one_div] at hnear

theorem lowerAscii_of_isDigit {c : Char} (hc : c.isDigit = true) : Text.lowerAscii c = c := by
  have hle : c ≤ '9' := (Char.isDigit_iff_toNat.mp hc).2
  have hlt : ¬ 'A' ≤ c := fun h => absurd (Char.le_trans h hle) (by decide)
  simp [Text.lowerAscii, hlt]

/-- A text that starts with a digit is read as a written number. -/
theorem Format.read?_of_startsWithDigit {s : List Char} (hs : StartsWithDigit s) :
    f.read? s = (written? s).map f.ofWritten := by
  obtain ⟨c, rest, rfl, hc⟩ := hs
  have hsign : splitSign (c :: rest) = (false, c :: rest) := by
    unfold splitSign
    split
    case h_1 heq => cases heq; cases hc
    case h_2 heq => cases heq; cases hc
    case h_3 => rfl
  -- a word for infinity or for no number starts with a letter
  have hword (word : String) (hletter : word.toList.head?.map Char.isDigit ≠ some true) :
      String.ofList ((c :: rest).map Text.lowerAscii) ≠ word := by
    rintro rfl
    exact hletter (by simp [lowerAscii_of_isDigit hc, hc])
  rw [Format.read?, hsign]
  dsimp only
  split
  case h_1 heq => exact absurd heq (hword _ (by decide))
  case h_2 heq => exact absurd heq (hword _ (by decide))
  case h_3 heq => exact absurd heq (hword _ (by decide))
  case h_4 => simp

/-! ### Numbers of 32 bits -/

/-- What is nearest to a number of 32 bits is far from the limits of reading. -/
theorem Format.single_range {r : ℚ} (hpos : 0 < m) (hm : single.Canonical m q)
    (hfinite : single.pattern m q < single.infinity) (h : single.Near m q r) :
    (10 : ℚ) ^ (-400 : ℤ) ≤ r ∧ r < 10 ^ (400 : ℤ) := by
  have hone : (1 : ℚ) ≤ m := by exact_mod_cast hpos
  have hfits : (m : ℚ) + 1 ≤ 2 ^ 24 := by exact_mod_cast hm.fits
  have hbelow : (single.quartersBelow m q : ℚ) ≤ 2 := by
    exact_mod_cast quartersBelow_le single m q
  have htwo := two_zpow_pos q
  constructor
  · calc (10 : ℚ) ^ (-400 : ℤ) ≤ 10 ^ (-200 : ℤ) :=
          zpow_le_zpow_right₀ (by norm_num) (by norm_num)
      _ ≤ 1 / 2 * 2 ^ (-149 : ℤ) := by norm_num
      _ ≤ 1 / 2 * 2 ^ q := mul_le_mul_of_nonneg_left (two_zpow_le_iff.mpr hm.lowest) (by norm_num)
      _ ≤ (m - single.quartersBelow m q / 4) * 2 ^ q :=
          mul_le_mul_of_nonneg_right (by linarith) htwo.le
      _ ≤ r := h.low
  · calc r ≤ (m + 1 / 2) * 2 ^ q := h.high
      _ ≤ 2 ^ 24 * 2 ^ q := mul_le_mul_of_nonneg_right (by linarith) htwo.le
      _ ≤ 2 ^ 24 * 2 ^ (105 : ℤ) :=
          mul_le_mul_of_nonneg_left (two_zpow_le_iff.mpr (single_power_le hfinite)) (by norm_num)
      _ < 10 ^ (200 : ℤ) := by norm_num
      _ < 10 ^ (400 : ℤ) := ten_zpow_lt_iff.mpr (by norm_num)

end Binary

namespace Single

open Binary

variable {x : Single}

/-- A finite number above zero has the text of a decimal that is nearest to it. -/
theorem exists_decimal (hfinite : x.value.isFinite = true) (hpositive : x.value.isPositive = true) :
    ∃ d : Decimal, x.text = d.text ∧ 0 < d.digits ∧ ∃ m q, 0 < m ∧ Format.single.Canonical m q ∧
      Format.single.pattern m q = x.bits.toNat ∧ x.bits.toNat < Format.single.infinity ∧
      Format.single.Near m q d.value := by
  have hbits : x.bits.toNat < 2 * Format.single.signBit := x.bits.toNat_lt
  cases hvalue : x.value with
  | nan => rw [hvalue] at hfinite; cases hfinite
  | infinite _ => rw [hvalue] at hfinite; cases hfinite
  | finite negative m q =>
    rw [hvalue, Value.isPositive, Bool.and_eq_true, Bool.not_eq_true', bne_iff_ne] at hpositive
    obtain ⟨rfl, hm⟩ := hpositive
    obtain ⟨hcanonical, hpattern, hlt⟩ := Format.decode_finite hbits hvalue
    obtain ⟨hdigits, hnear⟩ :=
      Format.near_shortest (Nat.pos_of_ne_zero hm) hcanonical (hpattern ▸ hlt)
    have hdecode : Format.single.decode x.bits.toNat = .finite false m q := hvalue
    refine ⟨(Format.single.shortest m q).reduce 20, ?_, Decimal.digits_reduce_pos 20 hdigits, m, q,
      Nat.pos_of_ne_zero hm, hcanonical, hpattern, hlt, by rwa [Decimal.value_reduce]⟩
    simp [Single.text, Format.text, hdecode, hm]

/-- A finite number above zero comes back from its text. -/
theorem read?_text (hfinite : x.value.isFinite = true) (hpositive : x.value.isPositive = true) :
    read? x.text = some x := by
  obtain ⟨d, htext, hdigits, m, q, hm, hcanonical, hpattern, hlt, hnear⟩ :=
    exists_decimal hfinite hpositive
  rw [← hpattern] at hlt
  obtain ⟨hlow, hhigh⟩ := Format.single_range hm hcanonical hlt hnear
  obtain ⟨hstart, w, hw, hspells⟩ := Decimal.text_spells hdigits
  rw [read?, htext, Format.read?_of_startsWithDigit hstart, hw, Option.map_some,
    Format.ofWritten_eq hspells hcanonical hlt hnear hlow hhigh, hpattern]
  simp

end Single

end DiagramDesk
