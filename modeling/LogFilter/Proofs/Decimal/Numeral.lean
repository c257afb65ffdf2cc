import LogFilter.Decimal.Printer
import LogFilter.Decimal.Reader
import Mathlib.Algebra.Group.Nat.Defs
import Mathlib.Data.List.TakeWhile

/-!
# Numerals with a point

Digits, the numbers that they stand for, and numerals with a point: `IsPointNumeral text bits` says
what such a numeral is and which double it means, and `IsPointNumeral.readMagnitude?` says that it
is read as that double.
-/

namespace LogFilter.Decimal

/-! ## Digits -/

theorem digitsFrom_eq (n : Nat) (s : List Char) : digitsFrom n s = Nat.ofDigitChars 10 s n := rfl

theorem digitsValue_digitChars (n : Nat) : digitsValue (digitChars n) = n := by
  rw [digitsValue, digitsFrom_eq]
  exact Nat.ofDigitChars_ten_toDigits

theorem digitsValue_append (s t : List Char) :
    digitsValue (s ++ t) = digitsFrom (digitsValue s) t := by
  simp only [digitsValue, digitsFrom_eq, Nat.ofDigitChars_append]

theorem digitsFrom_zeros (n k : Nat) : digitsFrom n (zeros k) = 10 ^ k * n := by
  rw [digitsFrom_eq]
  exact Nat.ofDigitChars_replicate_zero

theorem isDigit_of_mem_digitChars {n : Nat} {c : Char} (h : c ∈ digitChars n) : c.isDigit = true :=
  Nat.isDigit_of_mem_toDigits (by decide) (by decide) h

theorem digitChars_ne_nil (n : Nat) : digitChars n ≠ [] := Nat.toDigits_ne_nil

theorem isDigit_of_mem_zeros {n : Nat} {c : Char} (h : c ∈ zeros n) : c.isDigit = true := by
  rw [List.eq_of_mem_replicate h]
  decide

theorem toList_toString_int (i : Int) :
    (toString i).toList =
      if decide (i < 0) then '-' :: digitChars i.natAbs
      else digitChars i.natAbs := by
  rw [Int.toString_eq_repr, Int.repr_eq_if]
  by_cases h : 0 ≤ i
  · have hneg : ¬i < 0 := by omega
    have habs : i.toNat = i.natAbs := by omega
    simp [h, hneg, habs, Nat.toList_repr, digitChars]
  · have hneg : i < 0 := by omega
    have habs : (-i).toNat = i.natAbs := by omega
    simp [h, hneg, habs, Nat.toList_repr, digitChars]

/-- Digits, a point and digits. The double of the pattern is next to the number that they stand
for. -/
def IsPointNumeral (text : List Char) (bits : Nat) : Prop :=
  ∃ whole fraction : List Char, text = whole ++ '.' :: fraction ∧ whole ≠ [] ∧
    (∀ c ∈ whole, c.isDigit = true) ∧ (∀ c ∈ fraction, c.isDigit = true) ∧
    (⟨digitsValue (whole ++ fraction), -fraction.length⟩ : Digits).bits = bits

/-! ## Reading -/

/-- The sign is taken from a text that goes on without one. -/
theorem readSign_signed (body : List Char) (h : ∀ c ∈ body.head?, c ≠ '-' ∧ c ≠ '+')
    (negative : Bool) : readSign (if negative then '-' :: body else body) = (negative, body) := by
  cases negative with
  | true => rfl
  | false =>
    simp only [Bool.false_eq_true, if_false]
    unfold readSign
    split
    · exact absurd rfl (h '-' rfl).1
    · exact absurd rfl (h '+' rfl).2
    · rfl

theorem eq_or_mem_of_mem_signed {negative : Bool} {body : List Char} {c : Char}
    (h : c ∈ if negative then '-' :: body else body) : c = '-' ∨ c ∈ body := by
  cases negative with
  | true => exact List.mem_cons.1 h
  | false => exact .inr h

theorem not_sign_of_isDigit {c : Char} (h : c.isDigit = true) : c ≠ '-' ∧ c ≠ '+' := by
  constructor
  · rintro rfl
    exact absurd h (by decide)
  · rintro rfl
    exact absurd h (by decide)

/-- Digits with or without a sign are read as the number that they stand for. -/
theorem readInt?_of_digits {digits : List Char} (hne : digits ≠ [])
    (hd : ∀ c ∈ digits, c.isDigit = true) (negative : Bool) :
    readInt? (if negative then '-' :: digits else digits) =
      some (if negative then -(digitsValue digits : Int) else digitsValue digits) := by
  have hempty : digits.isEmpty = false := by simpa using hne
  have hall : digits.all Char.isDigit = true := List.all_eq_true.2 hd
  have hsign := readSign_signed digits
    (fun c hc => not_sign_of_isDigit (hd c (List.mem_of_mem_head? hc))) negative
  simp [readInt?, hsign, hempty, hall]

/-- **A whole number is read back from its text.** -/
theorem readInt64?_toString (i : Int64) : readInt64? (toString i.toInt).toList = some i := by
  have hlow := Int64.le_toInt i
  have hhigh := Int64.toInt_lt i
  have hread : readInt? (toString i.toInt).toList = some i.toInt := by
    rw [toList_toString_int, readInt?_of_digits (digitChars_ne_nil _)
      (fun c => isDigit_of_mem_digitChars), digitsValue_digitChars]
    simp only [decide_eq_true_eq, Option.some.injEq]
    split <;> omega
  rw [readInt64?, hread]
  simp only
  rw [if_pos (by omega), Int64.ofInt_toInt]

theorem takeWhile_isDigit_point {s r : List Char} (h : ∀ c ∈ s, c.isDigit = true) :
    (s ++ '.' :: r).takeWhile Char.isDigit = s := by
  rw [List.takeWhile_append_of_pos h]
  simp

theorem dropWhile_isDigit_point {s r : List Char} (h : ∀ c ∈ s, c.isDigit = true) :
    (s ++ '.' :: r).dropWhile Char.isDigit = '.' :: r := by
  rw [List.dropWhile_append_of_pos h]
  rfl

theorem readMantissa_point {whole fraction : List Char} (hw : ∀ c ∈ whole, c.isDigit = true)
    (hf : ∀ c ∈ fraction, c.isDigit = true) :
    readMantissa (whole ++ '.' :: fraction) = (whole, fraction, []) := by
  have ht : fraction.takeWhile Char.isDigit = fraction := List.takeWhile_eq_self_iff.2 hf
  have hd : fraction.dropWhile Char.isDigit = [] := List.dropWhile_eq_nil_iff.2 hf
  simp only [readMantissa, takeWhile_isDigit_point hw, dropWhile_isDigit_point hw, ht, hd]

theorem IsPointNumeral.readMagnitude? {text : List Char} {bits : Nat}
    (h : IsPointNumeral text bits) : readMagnitude? text = some bits := by
  obtain ⟨whole, fraction, rfl, hne, hw, hf, hbits⟩ := h
  have hempty : whole.isEmpty = false := by simpa using hne
  simp only [Decimal.readMagnitude?, readMantissa_point hw hf, hempty, Bool.false_and,
    readExponent?, Option.map_some]
  rw [← hbits, Digits.bits]
  simp

end LogFilter.Decimal
