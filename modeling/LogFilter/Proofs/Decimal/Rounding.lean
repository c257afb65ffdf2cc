import LogFilter.Decimal.Reader
import LogFilter.Decimal.Shortest
import Mathlib.Data.Int.Log
import Mathlib.Data.Rat.Floor
import Mathlib.Tactic.Positivity
import Mathlib.Tactic.Ring
import Mathlib.Tactic.GCongr
import Mathlib.Algebra.Order.Field.Power

/-!
# Rounding to the nearest double

`nearestBits` as a function of fractions. It works on a numerator and a denominator; what it answers
depends on their ratio alone, and the value of a double is rounded to that double.

* `spacing_eq_log` — the spacing of doubles is given by the binary logarithm of the ratio, so the
  comparison of logarithms of whole numbers in `spacing` finds the right one of two candidates;
* `nearestBits_congr` — equal fractions have the same nearest double;
* `nearestBits_ratio` — the value of a double is rounded to it;
* `Digits.bits_eq_nearest` — a decimal is read as the double next to its value. The two answers that
  `decimalBits` gives from the number of digits alone agree with the general rule.
-/

namespace LogFilter.Decimal

/-! ## The spacing of doubles -/

/-- The comparison in `spacing` is one of fractions, whatever the sign of the exponent. -/
theorem two_zpow_le_ratio_iff (num : Nat) {den : Nat} (hd : 0 < den) (k : Int) :
    (if 0 ≤ k then den * 2 ^ k.toNat ≤ num else den ≤ num * 2 ^ (-k).toNat)
      ↔ (2 : ℚ) ^ k ≤ (num : ℚ) / den := by
  have hd' : (0 : ℚ) < den := by exact_mod_cast hd
  rw [le_div_iff₀ hd']
  split
  · next hk =>
    obtain ⟨m, rfl⟩ := Int.eq_ofNat_of_zero_le hk
    rw [zpow_natCast, mul_comm]
    exact_mod_cast Iff.rfl
  · next hk =>
    obtain ⟨m, hm⟩ := Int.eq_ofNat_of_zero_le (show 0 ≤ -k by omega)
    obtain rfl : k = -(m : Int) := by omega
    rw [zpow_neg, zpow_natCast, neg_neg, Int.toNat_natCast, inv_mul_le_iff₀ (by positivity),
      mul_comm (2 ^ m : ℚ)]
    exact_mod_cast Iff.rfl

theorem two_pow_log2_le {n : Nat} (h : 0 < n) : (2 : ℚ) ^ (n.log2 : Int) ≤ n := by
  rw [zpow_natCast]
  exact_mod_cast Nat.log2_self_le (by omega)

theorem lt_two_pow_log2 (n : Nat) : (n : ℚ) < 2 ^ ((n.log2 : Int) + 1) := by
  have h : n < 2 ^ (n.log2 + 1) := Nat.lt_log2_self
  exact_mod_cast h

/-- **The spacing of doubles is given by the binary logarithm of the ratio.** -/
theorem spacing_eq_log {num den : Nat} (hn : 0 < num) (hd : 0 < den) :
    spacing num den = max (Int.log 2 ((num : ℚ) / den) - 52) (-1074) := by
  have hn' : (0 : ℚ) < num := by exact_mod_cast hn
  have hd' : (0 : ℚ) < den := by exact_mod_cast hd
  have hr : (0 : ℚ) < num / den := by positivity
  -- the logarithms of numerator and denominator leave two candidates
  have hlow : (num.log2 : Int) - den.log2 - 1 ≤ Int.log 2 ((num : ℚ) / den) := by
    rw [← Int.zpow_le_iff_le_log (by decide) hr, le_div_iff₀ hd']
    calc ((2 : Nat) : ℚ) ^ ((num.log2 : Int) - den.log2 - 1) * den
        ≤ 2 ^ ((num.log2 : Int) - den.log2 - 1) * 2 ^ ((den.log2 : Int) + 1) := by
          push_cast
          gcongr
          exact (lt_two_pow_log2 den).le
      _ = 2 ^ (num.log2 : Int) := by
          rw [← zpow_add₀ (by norm_num)]
          congr 1
          ring
      _ ≤ num := two_pow_log2_le hn
  have hhigh : Int.log 2 ((num : ℚ) / den) < (num.log2 : Int) - den.log2 + 1 := by
    rw [← Int.lt_zpow_iff_log_lt (by decide) hr, div_lt_iff₀ hd']
    calc (num : ℚ) < 2 ^ ((num.log2 : Int) + 1) := lt_two_pow_log2 num
      _ = 2 ^ ((num.log2 : Int) - den.log2 + 1) * 2 ^ (den.log2 : Int) := by
          rw [← zpow_add₀ (by norm_num)]
          congr 1
          ring
      _ ≤ ((2 : Nat) : ℚ) ^ ((num.log2 : Int) - den.log2 + 1) * den := by
          push_cast
          gcongr
          exact two_pow_log2_le hd
  have hk := two_zpow_le_ratio_iff num hd ((num.log2 : Int) - den.log2)
  rw [show (2 : ℚ) = ((2 : Nat) : ℚ) by norm_num, Int.zpow_le_iff_le_log (by decide) hr] at hk
  unfold spacing
  simp only [Nat.pow_eq, hk]
  split <;> omega

/-! ## Only the ratio counts -/

theorem roundHalfEven_mul {k den : Nat} (num : Nat) (hk : 0 < k) :
    roundHalfEven (k * num) (k * den) = roundHalfEven num den := by
  have h1 : (k * den < 2 * (k * (num % den))) = (den < 2 * (num % den)) := by
    rw [Nat.mul_left_comm 2 k]
    exact propext (Nat.mul_lt_mul_left hk)
  have h2 : (2 * (k * (num % den)) == k * den) = (2 * (num % den) == den) := by
    rw [Nat.mul_left_comm 2 k, Bool.eq_iff_iff, beq_iff_eq, beq_iff_eq]
    exact Nat.mul_right_inj (by omega)
  unfold roundHalfEven
  simp only [Nat.mul_div_mul_left _ _ hk, Nat.mul_mod_mul_left, h1, h2]

theorem spacing_mul {k num den : Nat} (hk : 0 < k) (hn : 0 < num) (hd : 0 < den) :
    spacing (k * num) (k * den) = spacing num den := by
  have hk' : (k : ℚ) ≠ 0 := by exact_mod_cast hk.ne'
  rw [spacing_eq_log (Nat.mul_pos hk hn) (Nat.mul_pos hk hd), spacing_eq_log hn hd]
  push_cast
  rw [mul_div_mul_left _ _ hk']

theorem nearestBits_mul {k den : Nat} (num : Nat) (hk : 0 < k) (hd : 0 < den) :
    nearestBits (k * num) (k * den) = nearestBits num den := by
  rcases Nat.eq_zero_or_pos num with rfl | hn
  · simp [nearestBits]
  · have hr : ∀ m : Nat, roundHalfEven (k * num) (k * den * m) = roundHalfEven num (den * m) := by
      intro m
      rw [Nat.mul_assoc, roundHalfEven_mul num hk]
    have hl : ∀ m : Nat, roundHalfEven (k * num * m) (k * den) = roundHalfEven (num * m) den := by
      intro m
      rw [Nat.mul_assoc, roundHalfEven_mul _ hk]
    unfold nearestBits
    simp only [spacing_mul hk hn hd, hr, hl, Nat.mul_eq_zero, hk.ne', false_or]

/-- **Ratios that are equal as fractions have the same nearest double.** -/
theorem nearestBits_congr {a b c d : Nat} (hb : 0 < b) (hd : 0 < d) (h : a * d = c * b) :
    nearestBits a b = nearestBits c d := by
  rw [← nearestBits_mul a hd hb, ← nearestBits_mul c hb hd, Nat.mul_comm d a, h,
    Nat.mul_comm d b, Nat.mul_comm c b]

/-! ## Values of doubles -/

theorem Dyadic.ratio_pos (d : Dyadic) : 0 < d.ratio.2 := by
  unfold Dyadic.ratio
  split
  · exact Nat.one_pos
  · exact Nat.two_pow_pos _

/-- The value of a dyadic number as a fraction. -/
theorem Dyadic.ratio_eq (d : Dyadic) :
    (d.ratio.1 : ℚ) / d.ratio.2 = d.coefficient * 2 ^ d.exponent := by
  unfold Dyadic.ratio
  split
  · next h =>
    obtain ⟨m, hm⟩ := Int.eq_ofNat_of_zero_le h
    simp [hm]
  · next h =>
    obtain ⟨m, hm⟩ := Int.eq_ofNat_of_zero_le (show 0 ≤ -d.exponent by omega)
    rw [show d.exponent = -(m : Int) by omega]
    simp [div_eq_mul_inv]

/-- What holds of the coefficient and the exponent of every positive finite double. -/
structure Dyadic.Canonical (d : Dyadic) : Prop where
  positive : 0 < d.coefficient
  small : d.coefficient < 2 ^ 53
  least : -1074 ≤ d.exponent
  full : 2 ^ 52 ≤ d.coefficient ∨ d.exponent = -1074

theorem canonical_dyadicOfBits {bits : Nat} (h : 0 < bits) : (dyadicOfBits bits).Canonical := by
  unfold dyadicOfBits hiddenBit
  split
  · next hz =>
    have hlt : bits < 2 ^ 52 := by omega
    exact ⟨h, by simp only; omega, by simp, Or.inr rfl⟩
  · next hz =>
    refine ⟨by simp only; omega, by simp only; omega, ?_, Or.inl (by simp)⟩
    simp only
    omega

/-- The spacing of doubles around a double is the unit of its coefficient. -/
theorem Dyadic.Canonical.spacing_ratio {d : Dyadic} (hc : d.Canonical) :
    spacing d.ratio.1 d.ratio.2 = d.exponent := by
  have hpos : (0 : ℚ) < d.coefficient := by exact_mod_cast hc.positive
  have hvalue : (0 : ℚ) < d.coefficient * 2 ^ d.exponent := by positivity
  have hnum : 0 < d.ratio.1 := by
    have hr := d.ratio_eq
    have hden : (0 : ℚ) < d.ratio.2 := by exact_mod_cast d.ratio_pos
    rw [div_eq_iff hden.ne'] at hr
    have : (0 : ℚ) < d.ratio.1 := by rw [hr]; positivity
    exact_mod_cast this
  have hbelow : Int.log 2 ((d.coefficient : ℚ) * 2 ^ d.exponent) < 53 + d.exponent := by
    rw [← Int.lt_zpow_iff_log_lt (by decide) hvalue, zpow_add₀ (by norm_num)]
    have : (d.coefficient : ℚ) < 2 ^ 53 := by exact_mod_cast hc.small
    push_cast
    gcongr
    exact_mod_cast hc.small
  rw [spacing_eq_log hnum d.ratio_pos, d.ratio_eq]
  rcases hc.full with hfull | hleast
  · have habove : 52 + d.exponent ≤ Int.log 2 ((d.coefficient : ℚ) * 2 ^ d.exponent) := by
      rw [← Int.zpow_le_iff_le_log (by decide) hvalue, zpow_add₀ (by norm_num)]
      push_cast
      gcongr
      exact_mod_cast hfull
    have := hc.least
    omega
  · omega

theorem roundHalfEven_exact (n : Nat) {den : Nat} (hd : 0 < den) :
    roundHalfEven (n * den) den = n := by
  simp [roundHalfEven, Nat.mul_div_cancel _ hd, hd.ne]

/-- The coefficient and the exponent make up the pattern again. -/
theorem pattern_dyadicOfBits (bits : Nat) :
    ((dyadicOfBits bits).exponent + 1074).toNat * hiddenBit + (dyadicOfBits bits).coefficient
      = bits := by
  unfold dyadicOfBits hiddenBit
  split
  · simp
  · simp only
    omega

/-- **The double next to the value of a double is that double.** -/
theorem nearestBits_ratio {bits : Nat} (h : bits < infinityBits) :
    nearestBits (dyadicOfBits bits).ratio.1 (dyadicOfBits bits).ratio.2 = bits := by
  rcases Nat.eq_zero_or_pos bits with rfl | hpos
  · decide
  · have hc := canonical_dyadicOfBits hpos
    -- in units of the spacing the value is its coefficient, so rounding changes nothing
    have hround : (if 0 ≤ (dyadicOfBits bits).exponent then
          roundHalfEven (dyadicOfBits bits).ratio.1
            ((dyadicOfBits bits).ratio.2 * 2 ^ (dyadicOfBits bits).exponent.toNat)
        else
          roundHalfEven ((dyadicOfBits bits).ratio.1 * 2 ^ (-(dyadicOfBits bits).exponent).toNat)
            (dyadicOfBits bits).ratio.2) = (dyadicOfBits bits).coefficient := by
      unfold Dyadic.ratio
      split
      · rw [Nat.one_mul]
        exact roundHalfEven_exact _ (Nat.two_pow_pos _)
      · exact roundHalfEven_exact _ (Nat.two_pow_pos _)
    have hne : (dyadicOfBits bits).ratio.1 ≠ 0 := by
      unfold Dyadic.ratio
      have := hc.positive
      split
      · exact (Nat.mul_pos this (Nat.two_pow_pos _)).ne'
      · exact this.ne'
    unfold nearestBits
    simp only [Nat.pow_eq, hc.spacing_ratio, hround, if_neg hne, pattern_dyadicOfBits]
    exact Nat.min_eq_left h.le

/-! ## Far from the range of doubles -/

theorem roundHalfEven_eq_zero {num den : Nat} (h : 2 * num < den) : roundHalfEven num den = 0 := by
  have hlt : num < den := by omega
  unfold roundHalfEven
  simp [Nat.div_eq_of_lt hlt, Nat.mod_eq_of_lt hlt]
  omega

/-- What is far above the largest double goes to infinity. -/
theorem nearestBits_eq_infinityBits {num den : Nat} (hd : 0 < den)
    (h : (2 : ℚ) ^ (1025 : Int) ≤ (num : ℚ) / den) : nearestBits num den = infinityBits := by
  have hr : (0 : ℚ) < (num : ℚ) / den := lt_of_lt_of_le (by positivity) h
  have hn : 0 < num := by
    rcases Nat.eq_zero_or_pos num with rfl | hn
    · simp at hr
    · exact hn
  have hlog : 1025 ≤ Int.log 2 ((num : ℚ) / den) :=
    (Int.zpow_le_iff_le_log (by decide) hr).1 (by exact_mod_cast h)
  have hs : 973 ≤ spacing num den := by
    rw [spacing_eq_log hn hd]
    omega
  unfold nearestBits infinityBits hiddenBit
  simp only [if_neg hn.ne']
  omega

/-- What is far below the smallest positive double goes to zero. -/
theorem nearestBits_eq_zero {num den : Nat} (hd : 0 < den)
    (h : (num : ℚ) / den < (2 : ℚ) ^ (-1075 : Int)) : nearestBits num den = 0 := by
  rcases Nat.eq_zero_or_pos num with rfl | hn
  · simp [nearestBits]
  have hr : (0 : ℚ) < (num : ℚ) / den := by
    have : (0 : ℚ) < num := by exact_mod_cast hn
    have : (0 : ℚ) < den := by exact_mod_cast hd
    positivity
  have hlog : Int.log 2 ((num : ℚ) / den) < -1075 :=
    (Int.lt_zpow_iff_log_lt (by decide) hr).1 (by exact_mod_cast h)
  have hs : spacing num den = -1074 := by
    rw [spacing_eq_log hn hd]
    omega
  -- the exponent stays a variable, so that nothing computes the power
  obtain ⟨m, hm⟩ : ∃ m : Nat, m = 1074 := ⟨_, rfl⟩
  have hsmall : 2 * (num * Nat.pow 2 m) < den := by
    rw [Nat.pow_eq]
    have hd' : (0 : ℚ) < den := by exact_mod_cast hd
    rw [show (-1075 : Int) = -((m + 1 : Nat) : Int) by omega, zpow_neg, zpow_natCast,
      div_lt_iff₀ hd', ← div_eq_inv_mul, lt_div_iff₀ (by positivity), pow_succ] at h
    have h' : num * 2 ^ m * 2 < den := by
      rw [Nat.mul_assoc]
      exact_mod_cast h
    omega
  unfold nearestBits
  rw [if_neg hn.ne', hs, if_neg (by decide), show (- -1074 : Int).toNat = m by omega,
    roundHalfEven_eq_zero hsmall]
  rfl

/-! ## Decimals -/

/-- A decimal as a fraction. -/
def Digits.ratio (d : Digits) : Nat × Nat :=
  if 0 ≤ d.exponent then (d.coefficient * 10 ^ d.exponent.toNat, 1)
  else (d.coefficient, 10 ^ (-d.exponent).toNat)

theorem Digits.ratio_pos (d : Digits) : 0 < d.ratio.2 := by
  unfold Digits.ratio
  split
  · exact Nat.one_pos
  · exact Nat.pow_pos (by decide)

/-- The number that a decimal is. -/
def Digits.value (d : Digits) : ℚ := d.coefficient * 10 ^ d.exponent

theorem Digits.ratio_eq (d : Digits) : (d.ratio.1 : ℚ) / d.ratio.2 = d.value := by
  unfold Digits.ratio Digits.value
  split
  · next h =>
    obtain ⟨m, hm⟩ := Int.eq_ofNat_of_zero_le h
    simp [hm]
  · next h =>
    obtain ⟨m, hm⟩ := Int.eq_ofNat_of_zero_le (show 0 ≤ -d.exponent by omega)
    rw [show d.exponent = -(m : Int) by omega]
    simp [div_eq_mul_inv]

theorem lt_pow_digitCount (n : Nat) : n < 10 ^ digitCount n :=
  (Nat.length_toDigits_le_iff (by decide) Nat.length_toDigits_pos).1 (Nat.le_refl _)

theorem pow_digitCount_le {n : Nat} (h : 0 < n) : 10 ^ (digitCount n - 1) ≤ n := by
  rcases Nat.lt_or_ge 1 (digitCount n) with h1 | h1
  · refine Nat.le_of_not_lt fun hlt => ?_
    have := (Nat.length_toDigits_le_iff (by decide) (by omega)).2 hlt
    unfold digitCount at h1 this
    omega
  · rw [Nat.sub_eq_zero_of_le h1]
    exact h

/-- **A decimal is read as the double next to its value.** The answers that are given without
computing the power of ten are right. -/
theorem Digits.bits_eq_nearest (d : Digits) : d.bits = nearestBits d.ratio.1 d.ratio.2 := by
  obtain ⟨c, e⟩ := d
  rcases Nat.eq_zero_or_pos c with rfl | hc
  · simp [Digits.bits, Digits.ratio, decimalBits, nearestBits]
    split <;> simp
  have hvalue := Digits.ratio_eq ⟨c, e⟩
  have hpos : 0 < digitCount c := Nat.length_toDigits_pos
  simp only [Digits.bits, decimalBits, if_neg hc.ne']
  split
  · -- the first digit alone is above all doubles
    next hbig =>
    refine (nearestBits_eq_infinityBits (Digits.ratio_pos _) ?_).symm
    rw [hvalue]
    calc (2 : ℚ) ^ (1025 : Int) ≤ 10 ^ (310 : Int) := by
          exact_mod_cast (show 2 ^ 1025 ≤ 10 ^ 310 by decide +kernel)
      _ ≤ 10 ^ (((digitCount c - 1 : Nat) : Int) + e) :=
          zpow_le_zpow_right₀ (by norm_num) (by omega)
      _ = 10 ^ ((digitCount c - 1 : Nat) : Int) * 10 ^ e := zpow_add₀ (by norm_num) _ _
      _ ≤ c * 10 ^ e := by
          gcongr
          exact_mod_cast pow_digitCount_le hc
  split
  · -- even with one digit more the decimal is below half of the smallest double
    next hsmall =>
    refine (nearestBits_eq_zero (Digits.ratio_pos _) ?_).symm
    rw [hvalue]
    calc (c : ℚ) * 10 ^ e < 10 ^ (digitCount c : Int) * 10 ^ e := by
          gcongr
          exact_mod_cast lt_pow_digitCount c
      _ = 10 ^ ((digitCount c : Int) + e) := (zpow_add₀ (by norm_num) _ _).symm
      _ ≤ 10 ^ (-331 : Int) := zpow_le_zpow_right₀ (by norm_num) (by omega)
      _ < 2 ^ (-1075 : Int) := by
          rw [zpow_neg, zpow_neg]
          refine inv_strictAnti₀ (by positivity) ?_
          exact_mod_cast (show 2 ^ 1075 < 10 ^ 331 by decide +kernel)
  · simp only [Digits.ratio]
    split <;> rfl

/-- Decimals of the same value are read as the same double. -/
theorem Digits.bits_congr {d d' : Digits} (h : d.value = d'.value) : d.bits = d'.bits := by
  rw [d.bits_eq_nearest, d'.bits_eq_nearest]
  have h1 : (0 : ℚ) < d.ratio.2 := by exact_mod_cast d.ratio_pos
  have h2 : (0 : ℚ) < d'.ratio.2 := by exact_mod_cast d'.ratio_pos
  rw [← d.ratio_eq, ← d'.ratio_eq, div_eq_div_iff h1.ne' h2.ne'] at h
  exact nearestBits_congr d.ratio_pos d'.ratio_pos (by exact_mod_cast h)

end LogFilter.Decimal
