import LogFilter.Proofs.Decimal.Numeral
import LogFilter.Proofs.Decimal.Rounding
import LogFilter.Proofs.Text.Runs
import Mathlib

/-!
# Decimal texts are read back

A numeral with a point stands for the double next to its value, and the text of a finite double is
such a numeral for the double itself. Two roads lead to the text: whole numbers are written in full,
all others as their shortest decimal. Both end at a decimal that rounds to the double
(`bits_of_value`, `shortest_bits`), and `positional` only moves its digits around the point.

The sign is written apart. Sign and pattern make up the double again, `ofBits_magnitudeBits`.
-/

namespace LogFilter.Decimal

/-! ## Writing -/

/-- A decimal of the same value but another exponent, if digits are put in between. -/
theorem Digits.value_mul_pow (c k : Nat) (e : Int) :
    (⟨10 ^ k * c, e⟩ : Digits).value = (⟨c, e + k⟩ : Digits).value := by
  simp only [Digits.value, Nat.cast_mul, Nat.cast_pow, Nat.cast_ofNat]
  rw [zpow_add₀ (by norm_num), zpow_natCast]
  ring

theorem Digits.strip_value (d : Digits) : d.strip.value = d.value := by
  fun_induction Digits.strip d with
  | case1 d h ih =>
    rw [ih]
    have hc : d.coefficient = 10 ^ 1 * (d.coefficient / 10) := by omega
    rw [← Nat.cast_one, ← Digits.value_mul_pow, ← hc]
  | case2 => rfl

/-- A point after the digits and the zeros behind them. -/
theorem isPointNumeral_whole (c k : Nat) :
    IsPointNumeral (digitChars c ++ zeros k ++ ['.', '0']) (⟨c, k⟩ : Digits).bits := by
  refine ⟨digitChars c ++ zeros k, ['0'], by simp, by simp [digitChars_ne_nil], ?_, by simp, ?_⟩
  · intro d hd
    rcases List.mem_append.1 hd with h | h
    · exact isDigit_of_mem_digitChars h
    · exact isDigit_of_mem_zeros h
  · refine Digits.bits_congr ?_
    -- the digit after the point is one more zero
    have hzero : ['0'] = zeros 1 := rfl
    rw [digitsValue_append, digitsValue_append, hzero, digitsFrom_zeros, digitsFrom_zeros,
      digitsValue_digitChars, Digits.value_mul_pow, Digits.value_mul_pow]
    congr 2
    simp [zeros]

/-- A point between the digits. -/
theorem isPointNumeral_between (c : Nat) {k : Nat} (hpos : 0 < k)
    (hk : k ≤ (digitChars c).length) :
    IsPointNumeral ((digitChars c).take k ++ ['.'] ++ (digitChars c).drop k)
      (⟨c, (k : Int) - (digitChars c).length⟩ : Digits).bits := by
  have hdigits : ∀ d ∈ digitChars c, d.isDigit = true := fun d => isDigit_of_mem_digitChars
  refine ⟨(digitChars c).take k, (digitChars c).drop k, by simp, ?_, ?_, ?_, ?_⟩
  · refine List.ne_nil_of_length_pos ?_
    rw [List.length_take]
    omega
  · exact fun d hd => hdigits d (List.mem_of_mem_take hd)
  · exact fun d hd => hdigits d (List.mem_of_mem_drop hd)
  · rw [List.take_append_drop, digitsValue_digitChars, List.length_drop]
    congr 2
    omega

/-- A point before the digits and the zeros in front of them. -/
theorem isPointNumeral_fraction (c k : Nat) :
    IsPointNumeral (['0', '.'] ++ zeros k ++ digitChars c)
      (⟨c, -(k + (digitChars c).length : Nat)⟩ : Digits).bits := by
  refine ⟨['0'], zeros k ++ digitChars c, by simp, by simp, by simp, ?_, ?_⟩
  · intro d hd
    rcases List.mem_append.1 hd with h | h
    · exact isDigit_of_mem_zeros h
    · exact isDigit_of_mem_digitChars h
  · have hzero : ['0'] = zeros 1 := rfl
    have hvalue : digitsValue (['0'] ++ (zeros k ++ digitChars c)) = c := by
      rw [digitsValue_append, hzero, digitsValue, digitsFrom_zeros, Nat.mul_zero,
        ← digitsValue, digitsValue_append, digitsValue, digitsFrom_zeros, Nat.mul_zero,
        ← digitsValue, digitsValue_digitChars]
    rw [hvalue, List.length_append, zeros, List.length_replicate]

/-- What `positional` writes stands for the decimal. -/
theorem isPointNumeral_positional (d : Digits) : IsPointNumeral (positional d) d.bits := by
  obtain ⟨c, e⟩ := d
  unfold positional
  simp only
  split
  · next he =>
    obtain ⟨k, rfl⟩ := Int.eq_ofNat_of_zero_le he
    exact isPointNumeral_whole c k
  split
  · next he hsize =>
    obtain ⟨k, hk⟩ := Int.eq_ofNat_of_zero_le hsize.le
    have h := isPointNumeral_between c (k := k) (by omega) (by omega)
    rwa [hk, Int.toNat_natCast, show e = (k : Int) - (digitChars c).length by omega]
  · next he hsize =>
    obtain ⟨k, hk⟩ := Int.eq_ofNat_of_zero_le
      (show 0 ≤ -(((digitChars c).length : Int) + e) by omega)
    have h := isPointNumeral_fraction c k
    rwa [hk, Int.toNat_natCast, show e = -((k + (digitChars c).length : Nat) : Int) by omega]

/-! ## The shortest decimal is read back -/

theorem hitOnGrid_bits {tie : Tie} {bits num den : Nat} {e : Int} {d : Digits}
    (h : hitOnGrid tie bits num den e = some d) : d.bits = bits := by
  unfold hitOnGrid at h
  simp only at h
  split at h
  · next hlow hhigh =>
    rw [Option.some.injEq] at h
    rw [← h, apply_ite Digits.bits, eq_of_beq hlow, eq_of_beq hhigh, ite_self]
  · next hlow _ => exact (Option.some.inj h) ▸ eq_of_beq hlow
  · next _ hhigh => exact (Option.some.inj h) ▸ eq_of_beq hhigh
  · exact absurd h (by simp)

theorem firstHit_bits {tie : Tie} {bits num den : Nat} {size : Int} {ks : List Nat} {d : Digits}
    (h : firstHit tie bits num den size ks = some d) : d.bits = bits := by
  induction ks with
  | nil => exact absurd h (by simp [firstHit])
  | cons k ks ih =>
    unfold firstHit at h
    split at h
    · next hk => exact (Option.some.inj h) ▸ hitOnGrid_bits hk
    · exact ih h

/-- A decimal of the same value as a finite double is read as it. -/
theorem bits_of_value {d : Digits} {bits : Nat} (hfin : bits < infinityBits)
    (h : d.value = (dyadicOfBits bits).coefficient * 2 ^ (dyadicOfBits bits).exponent) :
    d.bits = bits := by
  have h1 : (0 : ℚ) < d.ratio.2 := by exact_mod_cast d.ratio_pos
  have h2 : (0 : ℚ) < (dyadicOfBits bits).ratio.2 := by
    exact_mod_cast (dyadicOfBits bits).ratio_pos
  rw [← d.ratio_eq, ← Dyadic.ratio_eq, div_eq_div_iff h1.ne' h2.ne'] at h
  rw [d.bits_eq_nearest, nearestBits_congr d.ratio_pos (dyadicOfBits bits).ratio_pos
    (by exact_mod_cast h), nearestBits_ratio hfin]

theorem exactDigits_value (d : Dyadic) :
    (exactDigits d).value = d.coefficient * 2 ^ d.exponent := by
  unfold exactDigits
  split
  · next h =>
    obtain ⟨m, hm⟩ := Int.eq_ofNat_of_zero_le h
    simp [Digits.value, hm]
  · next h =>
    obtain ⟨m, hm⟩ := Int.eq_ofNat_of_zero_le (show 0 ≤ -d.exponent by omega)
    rw [show d.exponent = -(m : Int) by omega]
    simp only [Digits.value, Nat.pow_eq, neg_neg, Int.toNat_natCast, Nat.cast_mul, Nat.cast_pow,
      zpow_neg, zpow_natCast, Nat.cast_ofNat]
    rw [mul_assoc, show (10 : ℚ) = 5 * 2 by norm_num, mul_pow,
      mul_inv, mul_inv_cancel_left₀ (by positivity)]

/-- **The shortest decimal of a finite double is read back as it.** -/
theorem shortest_bits (tie : Tie) {bits : Nat} (hfin : bits < infinityBits) :
    (shortest tie bits).bits = bits := by
  unfold shortest
  simp only
  split
  · next hz => rw [hz]; rfl
  · split
    · next d hd => rw [Digits.bits_congr d.strip_value, firstHit_bits hd]
    · exact bits_of_value hfin ((Digits.strip_value _).trans (exactDigits_value _))

theorem whole?_value {d : Dyadic} {n : Nat} (h : d.whole? = some n) :
    (⟨n, 0⟩ : Digits).value = d.coefficient * 2 ^ d.exponent := by
  unfold Dyadic.whole? at h
  simp only at h
  split at h
  · next hz =>
    have hpos : (0 : ℚ) < d.ratio.2 := by exact_mod_cast d.ratio_pos
    have hmul : d.ratio.1 / d.ratio.2 * d.ratio.2 = d.ratio.1 :=
      Nat.div_mul_cancel (Nat.dvd_of_mod_eq_zero hz)
    rw [Option.some.injEq] at h
    rw [← d.ratio_eq, eq_div_iff hpos.ne', ← h]
    simp only [Digits.value, zpow_zero, mul_one]
    exact_mod_cast hmul
  · exact absurd h (by simp)

/-- **The text of a finite double, without its sign, is read back as its pattern.** -/
theorem isPointNumeral_magnitudeText {bits : Nat} (hfin : bits < infinityBits) :
    IsPointNumeral (magnitudeText valueStyle bits) bits := by
  unfold magnitudeText
  split
  · next n hn =>
    have hwhole : (dyadicOfBits bits).whole? = some n := hn
    have h := isPointNumeral_positional ⟨n, 0⟩
    rwa [bits_of_value hfin (whole?_value hwhole)] at h
  · have h := isPointNumeral_positional (shortest valueStyle.tie bits)
    rw [shortest_bits _ hfin] at h
    exact h

/-! ## Signs -/

/-- **A double is the double of its sign and of its pattern without the sign.** -/
theorem ofBits_magnitudeBits (x : Float) : ofBits (isNegative x) (magnitudeBits x) = x := by
  have hlt : x.toBits.toNat < 2 ^ 64 := x.toBits.toNat_lt
  have hsum :
      (if isNegative x then 0x8000000000000000 else 0) + magnitudeBits x = x.toBits.toNat := by
    simp only [isNegative, magnitudeBits, decide_eq_true_eq]
    split <;> omega
  unfold ofBits
  rw [hsum, UInt64.ofNat_toNat, Float.ofBits_toBits]

open Float.Model in
/-- A pattern is that of its double, unless it is one of those that are no number. -/
theorem toBits_ofBits {u : UInt64} (h : u.toNat % 0x8000000000000000 ≤ infinityBits) :
    (Float.ofBits u).toBits = u := by
  have hvalid : Format.binary64.Valid u.toBitVec := by
    refine ⟨fun he hm => absurd (BitVec.eq_of_toNat_eq ?_) hm⟩
    have hexponent := congrArg BitVec.toNat he
    simp only [UnpackedFloat.unpackExponent, UnpackedFloat.unpackMantissa, infinityBits,
      Format.binary64, BitVec.toNat_cast, BitVec.extractLsb_toNat, UInt64.toNat_toBitVec,
      Nat.shiftRight_eq_div_pow] at hexponent h ⊢
    norm_num at hexponent ⊢
    omega
  exact congrArg Float.toBits (Float.ofBits_toBits ⟨⟨u, hvalid⟩⟩)

theorem magnitudeBits_ofBits (negative : Bool) {bits : Nat} (h : bits ≤ infinityBits) :
    magnitudeBits (ofBits negative bits) = bits := by
  have hbits : bits < 0x8000000000000000 := by
    unfold infinityBits at h
    omega
  have hmod : (UInt64.ofNat ((if negative then 0x8000000000000000 else 0) + bits)).toNat %
      0x8000000000000000 = bits := by
    rw [UInt64.toNat_ofNat']
    cases negative <;> simp only [if_true, Bool.false_eq_true, if_false] <;> omega
  rw [magnitudeBits, ofBits, toBits_ofBits (by rw [hmod]; exact h), hmod]

theorem nearestBits_le (num den : Nat) : nearestBits num den ≤ infinityBits := by
  unfold nearestBits
  simp only
  split
  · exact Nat.zero_le _
  · exact Nat.min_le_right _ _

/-- What a decimal is read as is no larger than infinity. -/
theorem Digits.bits_le (d : Digits) : d.bits ≤ infinityBits :=
  d.bits_eq_nearest ▸ nearestBits_le _ _

/-- A numeral stands for a number. -/
theorem isNaN_ofBits_bits (negative : Bool) (d : Digits) :
    isNaN (ofBits negative d.bits) = false := by
  rw [isNaN, magnitudeBits_ofBits negative d.bits_le]
  exact decide_eq_false (Nat.not_lt.2 d.bits_le)

/-! ## Doubles -/

theorem isDigit_or_point_of_mem {text : List Char} {bits : Nat} (h : IsPointNumeral text bits)
    {c : Char} (hc : c ∈ text) : c.isDigit = true ∨ c = '.' := by
  obtain ⟨whole, fraction, rfl, -, hw, hf, -⟩ := h
  rcases List.mem_append.1 hc with hc | hc
  · exact .inl (hw c hc)
  · rcases List.mem_cons.1 hc with rfl | hc
    · exact .inr rfl
    · exact .inl (hf c hc)

theorem IsPointNumeral.exists_cons {text : List Char} {bits : Nat} (h : IsPointNumeral text bits) :
    ∃ c r, text = c :: r ∧ c.isDigit = true := by
  obtain ⟨whole, fraction, rfl, hne, hw, -, -⟩ := h
  obtain ⟨c, r, rfl⟩ := List.exists_cons_of_ne_nil hne
  exact ⟨c, r ++ '.' :: fraction, rfl, hw c List.mem_cons_self⟩

/-- A numeral with a point is none of the words for doubles, so it is read as a numeral. -/
theorem IsPointNumeral.readDouble? {text : List Char} {bits : Nat} (h : IsPointNumeral text bits)
    (negative : Bool) :
    readDouble? (if negative then '-' :: text else text) = some (ofBits negative bits) := by
  obtain ⟨c, r, htext, hdigit⟩ := h.exists_cons
  have hsign := readSign_signed text
    (fun d hd => not_sign_of_isDigit (by simp_all)) negative
  have hlower : c.toLower = c := by
    have hall : ∀ n ∈ List.range' 48 10, (Char.ofNat n).toLower = Char.ofNat n := by decide
    have := hall c.toNat (toNat_mem_of_isDigit hdigit)
    rwa [Char.ofNat_toNat] at this
  have hword (word : String) (hw : ∀ d ∈ word.toList.head?, d.isDigit = false) :
      String.ofList (text.map Char.toLower) ≠ word := by
    rintro rfl
    rw [String.toList_ofList, htext, List.map_cons, hlower] at hw
    exact absurd (hw c rfl) (by simp [hdigit])
  have hnone : ¬(String.ofList (text.map Char.toLower) = "inf" ∨
      String.ofList (text.map Char.toLower) = "infinity") :=
    not_or.2 ⟨hword "inf" (by simp), hword "infinity" (by simp)⟩
  simp only [Decimal.readDouble?, hsign, ← Bool.decide_or, decide_eq_true_eq]
  rw [if_neg hnone, if_neg (hword "nan" (by simp)), h.readMagnitude?, Option.map_some]

/-- The text of a double is the word for what is no number, or, after the sign, the word for
infinity or the numeral of a finite magnitude. -/
theorem doubleText_cases (x : Float) :
    isNaN x = true ∧ doubleText valueStyle x = "NaN".toList ∨
      isNaN x = false ∧ ∃ body,
        doubleText valueStyle x = (if isNegative x then '-' :: body else body) ∧
          (magnitudeBits x = infinityBits ∧ body = "Infinity".toList ∨
            IsPointNumeral body (magnitudeBits x)) := by
  unfold doubleText
  cases hnan : isNaN x with
  | true => exact .inl ⟨rfl, rfl⟩
  | false =>
    refine .inr ⟨rfl, _, rfl, ?_⟩
    have hle : ¬infinityBits < magnitudeBits x := of_decide_eq_false hnan
    by_cases hinfinite : magnitudeBits x = infinityBits
    · exact .inl ⟨hinfinite, if_pos (by simpa [isInfinite] using hinfinite)⟩
    · rw [if_neg (by simpa [isInfinite] using hinfinite)]
      exact .inr (isPointNumeral_magnitudeText (by omega))

/-- **A double that is a number is read back from its text**, infinities too. -/
theorem readDouble?_doubleText {x : Float} (h : isNaN x = false) :
    readDouble? (doubleText valueStyle x) = some x := by
  have hbits := ofBits_magnitudeBits x
  rcases doubleText_cases x with ⟨hnan, -⟩ | ⟨-, body, htext, ⟨hinfinite, rfl⟩ | hnumeral⟩
  · exact absurd (hnan.symm.trans h) (by simp)
  · have hsign := readSign_signed "Infinity".toList (by simp) (isNegative x)
    have hword : String.ofList ("Infinity".toList.map Char.toLower) = "infinity" := by
      decide +kernel
    rw [hinfinite] at hbits
    simp only [htext, readDouble?, hsign, hword, decide_true, Bool.or_true, if_true, hbits]
  · rw [htext, hnumeral.readDouble?, hbits]

/-- The word for what is no number is read as a double that is none. -/
theorem exists_readDouble?_notNumber :
    ∃ x, readDouble? "NaN".toList = some x ∧ isNaN x = true :=
  ⟨_, rfl, by decide +kernel⟩

theorem not_isBlank_of_mem_toString {i : Int} {c : Char} (h : c ∈ (toString i).toList) :
    Text.isBlank c = false := by
  rw [toList_toString_int] at h
  rcases eq_or_mem_of_mem_signed h with rfl | hc
  · decide
  · exact not_isBlank_of_isDigit (isDigit_of_mem_digitChars hc)

theorem not_isBlank_of_mem_doubleText {x : Float} {c : Char} (h : c ∈ doubleText valueStyle x) :
    Text.isBlank c = false := by
  have hword : ∀ c ∈ "NaN".toList ++ "Infinity".toList, Text.isBlank c = false := by
    simp [Text.isBlank]
  rcases doubleText_cases x with ⟨-, htext⟩ | ⟨-, body, htext, hbody⟩
  · rw [htext] at h
    exact hword c (List.mem_append_left _ h)
  · rw [htext] at h
    rcases eq_or_mem_of_mem_signed h with rfl | hc
    · decide
    rcases hbody with ⟨-, rfl⟩ | hnumeral
    · exact hword c (List.mem_append_right _ hc)
    · rcases isDigit_or_point_of_mem hnumeral hc with hdigit | rfl
      · exact not_isBlank_of_isDigit hdigit
      · decide

theorem sameNumber_self {x : Float} (h : isNaN x = false) : sameNumber x x = true := by
  simp [sameNumber, h]

theorem isNaN_of_isFinite {x : Float} (h : isFinite x = true) : isNaN x = false := by
  have := of_decide_eq_true h
  exact decide_eq_false (by omega)

end LogFilter.Decimal
