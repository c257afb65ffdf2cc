import LogFilter.Condition.Eval
import LogFilter.Proofs.Condition.Canonical
import LogFilter.Proofs.Condition.Failures
import LogFilter.Proofs.Condition.Reproduction

/-!
# Whole numbers in conditions

Digits, with a minus in front of them or without, are a condition of their own if the number that
they stand for fits 64 bits with a sign. Sign and digits are two words, and only both together are
converted, so the least of these numbers has a literal although it has none without its sign. All
other numbers are refused, and the error has the digits as they were written. Zeros in front change
nothing, and there may be any number of digits.
-/

namespace LogFilter

open Text Tokens

variable {env : Surroundings} {digits : List Char}

/-- The words of digits after a sign, and no others. -/
theorem words_signedDigits (hne : digits ≠ []) (hd : ∀ c ∈ digits, c.isDigit = true)
    (negative : Bool) :
    let ts := ofText (String.ofList (if negative then '-' :: digits else digits))
    ts.IsComplete ∧ ts.words = signedWords negative ⟨.number, digits⟩ := by
  have hbegins : Begins ((if negative then '-' :: digits else digits) ++ []) _ [] :=
    begins_signed (begins_number_of_delimited (.inl ⟨hne, hd⟩) delimited_nil)
  rw [List.append_nil] at hbegins
  refine begins_nil ?_
  rwa [String.toList_ofList]

/-- A number that is refused is refused as a whole text. -/
theorem Parser.signed_fails {negative : Bool} {error : ParseError}
    (h : numberLiteral negative (String.ofList digits) = .error error) :
    Fails env .or (signedWords negative ⟨.number, digits⟩) error := by
  have hoperand : Fails env .operand (signedWords negative ⟨.number, digits⟩) error := by
    cases negative with
    | true => exact negative_fails rfl rfl h
    | false => exact number_fails rfl h
  have hne : signedWords negative ⟨.number, digits⟩ ≠ [] := by
    cases negative <;> simp [signedWords]
  exact ((hoperand.relation.not hne not_isNot_signedWords).and).or

namespace Expr

/-- Digits after a sign are parsed as the literal of their number, if it fits. -/
theorem parse_signedDigits (env : Surroundings) (hne : digits ≠ [])
    (hd : ∀ c ∈ digits, c.isDigit = true) (negative : Bool) :
    parse env (String.ofList (if negative then '-' :: digits else digits)) =
      if -(2 : Int) ^ 63 ≤ signedValue negative digits ∧ signedValue negative digits < 2 ^ 63 then
        .ok (.literal (.int (Int64.ofInt (signedValue negative digits))))
      else .error (.invalidNumber (String.ofList digits)) := by
  obtain ⟨hcomplete, hwords⟩ := words_signedDigits hne hd negative
  have hliteral : Parser.numberLiteral negative (String.ofList digits) = _ :=
    Parser.numberLiteral_whole hne hd
  by_cases hrange :
      -(2 : Int) ^ 63 ≤ signedValue negative digits ∧ signedValue negative digits < 2 ^ 63
  · rw [if_pos hrange]
    refine parse_of_derives hcomplete ?_
    rw [hwords]
    exact (derives_signed (.whole hne hd hrange.1 hrange.2)).or_of_operand not_isNot_signedWords
  · rw [if_neg hrange] at hliteral ⊢
    refine parse_of_fails hcomplete ?_
    rw [hwords]
    exact Parser.signed_fails hliteral

/-- A literal of a whole number: the number is its value for every event, and both the literal and
the value are written as the number in decimal. -/
def IsWhole (n : Int) (e : Expr) : Prop :=
  ∃ i : Int64, i.toInt = n ∧ e = .literal (.int i) ∧ e.text = toString n ∧
    ∀ event, e.evaluate event = .ok (.int i) ∧ (Value.int i).text = toString n

theorem isWhole_literal {n : Int} (hlow : -(2 : Int) ^ 63 ≤ n) (hhigh : n < 2 ^ 63) :
    IsWhole n (.literal (.int (Int64.ofInt n))) := by
  have hvalue : (Int64.ofInt n).toInt = n := Int64.toInt_ofInt_of_le hlow hhigh
  refine ⟨Int64.ofInt n, hvalue, rfl, ?_, fun event => ⟨rfl, ?_⟩⟩
  · show String.ofList (toString (Int64.ofInt n).toInt).toList = toString n
    rw [hvalue, String.ofList_toList]
  · rw [Value.text, hvalue]

/-- Digits after a sign are a literal exactly if their number fits. -/
theorem parse_signedDigits_iff (env : Surroundings) (hne : digits ≠ [])
    (hd : ∀ c ∈ digits, c.isDigit = true) (negative : Bool) {text : String} {n : Int}
    (htext : text.toList = if negative then '-' :: digits else digits)
    (hn : signedValue negative digits = n) :
    ((∃ e, parse env text = .ok e ∧ e.IsWhole n) ↔ -(2 : Int) ^ 63 ≤ n ∧ n < 2 ^ 63) ∧
      (¬(-(2 : Int) ^ 63 ≤ n ∧ n < 2 ^ 63) →
        parse env text = .error (.invalidNumber (String.ofList digits))) := by
  have hparse := parse_signedDigits env hne hd negative
  rw [← htext, String.ofList_toList, hn] at hparse
  refine ⟨⟨?_, ?_⟩, ?_⟩
  · rintro ⟨e, hok, -⟩
    by_contra hrange
    rw [hparse, if_neg hrange] at hok
    exact absurd hok (by simp)
  · intro hrange
    refine ⟨_, ?_, isWhole_literal hrange.1 hrange.2⟩
    rw [hparse, if_pos hrange]
  · intro hrange
    rw [hparse, if_neg hrange]

/-- **Digits are the literal of the number that they stand for, exactly if it fits 64 bits with a
sign.** With a minus in front of them they are the literal of the negative number, which reaches one
further. In all other cases the error has the digits without the sign. -/
theorem parse_digits (env : Surroundings) {d : String} {n : Nat} (hne : d ≠ "")
    (hd : ∀ c ∈ d.toList, c.isDigit = true) (hn : Nat.ofDigitChars 10 d.toList 0 = n) :
    ((∃ e, parse env d = .ok e ∧ e.IsWhole n) ↔ n ≤ 2 ^ 63 - 1) ∧
      (¬n ≤ 2 ^ 63 - 1 → parse env d = .error (.invalidNumber d)) ∧
      ((∃ e, parse env ("-" ++ d) = .ok e ∧ e.IsWhole (-n)) ↔ n ≤ 2 ^ 63) ∧
      (¬n ≤ 2 ^ 63 → parse env ("-" ++ d) = .error (.invalidNumber d)) := by
  have hnil : d.toList ≠ [] := by simpa using hne
  have hplus : signedValue false d.toList = n := by
    rw [← hn]
    rfl
  have hminus : signedValue true d.toList = -n := by
    rw [← hn]
    rfl
  have hsigned : ("-" ++ d).toList = '-' :: d.toList := by rw [String.toList_append]; rfl
  obtain ⟨hplain, hplainError⟩ := parse_signedDigits_iff env hnil hd false rfl hplus
  obtain ⟨hnegative, hnegativeError⟩ :=
    parse_signedDigits_iff env hnil hd true hsigned hminus
  rw [String.ofList_toList] at hplainError hnegativeError
  refine ⟨hplain.trans ?_, fun hn => hplainError ?_, hnegative.trans ?_,
    fun hn => hnegativeError ?_⟩
  all_goals omega

/-- The least whole number has a literal only with its sign, also with a zero in front. -/
theorem parse_digits_least :
    "09223372036854775808" ≠ "" ∧
      (∀ c ∈ "09223372036854775808".toList, c.isDigit = true) ∧
      Nat.ofDigitChars 10 "09223372036854775808".toList 0 = 2 ^ 63 ∧
      Expr.parse .standard "09223372036854775808" =
        .error (.invalidNumber "09223372036854775808") ∧
      ∃ e, Expr.parse .standard "-09223372036854775808" = .ok e ∧ e.IsWhole (-2 ^ 63) := by
  have hne : "09223372036854775808" ≠ "" := by decide +kernel
  have hd : ∀ c ∈ "09223372036854775808".toList, c.isDigit = true :=
    List.all_eq_true.1 (by decide +kernel)
  have hn : Nat.ofDigitChars 10 "09223372036854775808".toList 0 = 2 ^ 63 := by decide +kernel
  obtain ⟨-, herror, hliteral, -⟩ := parse_digits .standard hne hd hn
  have hleast := hliteral.2 (by omega)
  rw [Nat.cast_pow, Nat.cast_ofNat] at hleast
  exact ⟨hne, hd, hn, herror (by omega), hleast⟩

end Expr

end LogFilter
