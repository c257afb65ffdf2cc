import LogFilter.Proofs.Calendar.LocalTime
import LogFilter.Proofs.Decimal.ReadBack
import LogFilter.Proofs.Value.Comparison

/-!
# Values next to their own texts

A value that is not null is equal to the string of its own text, on either side of it
(`Value.equal_to_own_text`). The one exception is a time with a part of a second, which its text
does not show (`Value.isShownInFull`).

For a string and an exception the texts are compared. A value of any other kind is read back from
its text, by `Value.exists_convert?_text`: exactly, or as a double that is no number either, or as
the time without the part of a second.
-/

namespace LogFilter.Value

open Text

/-- Whether the text of a value leaves nothing of it out. Null has no text, and that of a time shows
whole seconds. -/
def isShownInFull : Value → Bool
  | null => false
  | date t => t.time.shownNanosecond == 0
  | _ => true

/-! ## Values that are read back -/

theorem convert?_text_bool (b : Bool) : (string (bool b).text).convert? .bool = some (bool b) := by
  have hword : boolOfText? (trim (bool b).text.toList) = some b := by cases b <;> decide
  simp [convert?, convertOther?, kind, hword]

theorem convert?_text_int (i : Int64) : (string (int i).text).convert? .int = some (int i) := by
  have hread : (string (int i).text).convert? .int =
      (Decimal.readInt64? (trim (toString i.toInt).toList)).map int := rfl
  rw [hread, trim_of_not_blank (fun c => Decimal.not_isBlank_of_mem_toString),
    Decimal.readInt64?_toString, Option.map_some]

/-- What is no number is read back as some double that is none. -/
theorem exists_convert?_text_float (x : Float) :
    ∃ y, (string (float x).text).convert? .float = some (float y) ∧
      Decimal.compareDoubles x y = .eq := by
  have hread : (string (float x).text).convert? .float =
      (Decimal.readDouble? (trim (floatText x).toList)).map float := rfl
  rw [hread, floatText, String.toList_ofList,
    trim_of_not_blank (fun c => Decimal.not_isBlank_of_mem_doubleText)]
  cases hx : Decimal.isNaN x with
  | true =>
    obtain ⟨y, hy, hnan⟩ := Decimal.exists_readDouble?_notNumber
    have htext : Decimal.doubleText Decimal.valueStyle x = "NaN".toList := by
      simp [Decimal.doubleText, hx]
    exact ⟨y, by rw [htext, hy, Option.map_some], by rw [Decimal.compareDoubles, hx, hnan]⟩
  | false =>
    refine ⟨x, by rw [Decimal.readDouble?_doubleText hx, Option.map_some], ?_⟩
    simp [Decimal.compareDoubles, hx, Std.ReflOrd.compare_self]

theorem convert?_text_date (t : DateTime) :
    (string (date t).text).convert? .date = some (date t.wholeSecond) := by
  simp [convert?, convertOther?, kind, text, DateTime.read?_text]

theorem convert?_text_level (l : Level) :
    (string (level l).text).convert? .level = some (level l) := by
  have htrim : String.ofList (trim l.name.toList) = l.name := by cases l <;> decide +kernel
  simp [convert?, convertOther?, kind, text, htrim, Level.ofName?_name]

theorem compareSameKind_equal {v w : Value} (h : order? v w = some .eq) :
    compareSameKind .equal v w = .ok true := by
  have hkinds : ¬(v.kind = .exception ∧ w.kind = .exception) := by
    rintro ⟨hv, hw⟩
    cases v <;> cases hv
    cases w <;> cases hw
    cases h
  rw [compareSameKind_eq_order hkinds, h]
  rfl

/-- Only a time with a part of a second differs from what is read back. -/
theorem compareSameKind_wholeSecond (t : DateTime) :
    compareSameKind .equal (date t) (date t.wholeSecond) = .ok (date t).isShownInFull := by
  have hsame : (DateTime.compare t t.wholeSecond == .eq) = (t.time.shownNanosecond == 0) := by
    rw [Bool.eq_iff_iff, beq_iff_eq, beq_iff_eq]
    exact DateTime.compare_wholeSecond
  exact congrArg Except.ok hsame

/-- **A value is read back from its text**, as far as the text shows it. -/
theorem exists_convert?_text {v : Value} (hnull : v.kind ≠ .null)
    (h : v.kind.meeting .string = .byReading) :
    ∃ w, (string v.text).convert? v.kind = some w ∧
      compareSameKind .equal v w = .ok v.isShownInFull := by
  cases v with
  | null => exact absurd rfl hnull
  | bool b =>
    exact ⟨bool b, convert?_text_bool b, compareSameKind_equal (congrArg some Std.ReflOrd.compare_self)⟩
  | int i =>
    exact ⟨int i, convert?_text_int i, compareSameKind_equal (congrArg some Std.ReflOrd.compare_self)⟩
  | float x =>
    obtain ⟨y, hread, hsame⟩ := exists_convert?_text_float x
    exact ⟨float y, hread, compareSameKind_equal (congrArg some hsame)⟩
  | string s => cases h
  | date t => exact ⟨date t.wholeSecond, convert?_text_date t, compareSameKind_wholeSecond t⟩
  | level l =>
    exact ⟨level l, convert?_text_level l, compareSameKind_equal (congrArg some Std.ReflOrd.compare_self)⟩
  | exception e => cases h

/-! ## The comparison -/

/-- Strings and exceptions have no other text than their own to be compared with. -/
theorem satisfiesByRule_ownText {v : Value} (hnull : v.kind ≠ .null) :
    satisfiesByRule .equal v (string v.text) = .ok v.isShownInFull := by
  unfold satisfiesByRule
  cases hm : v.kind.meeting (string v.text).kind with
  | byReading =>
    obtain ⟨w, hread, hsame⟩ := exists_convert?_text hnull hm
    have hkind : v.kind ≠ .string := by
      intro hs
      rw [hs] at hm
      cases hm
    simp only [satisfiesByReading, if_neg hkind, hread, hsame]
  | inKind =>
    cases v with
    | string s => exact compareSameKind_equal (congrArg some Std.ReflOrd.compare_self)
    | _ => cases hm
  | asTexts =>
    cases v with
    | exception e => simp [text, Relation.holds, isShownInFull, Std.ReflOrd.compare_self]
    | _ => cases hm
  | _ => cases v <;> cases hm

/-- **A value that is not null is equal to the string of its own text**, on either side of it,
unless it is a time with a part of a second. -/
theorem equal_to_own_text (v : Value) :
    satisfies .equal v (string v.text) = .ok v.isShownInFull ∧
      satisfies .equal (string v.text) v = .ok v.isShownInFull := by
  have hstring : (string v.text).kind ≠ .null := Kind.noConfusion
  by_cases hnull : v.kind = .null
  · cases v with
    | null => exact ⟨rfl, rfl⟩
    | _ => cases hnull
  · constructor
    · rw [satisfies_eq_byRule hnull hstring, satisfiesByRule_ownText hnull]
    · calc satisfies .equal (string v.text) v
          = satisfiesByRule .equal (string v.text) v := satisfies_eq_byRule hstring hnull .equal
        _ = (satisfiesByRule .equal v (string v.text)).mapError CompareError.mirror :=
            satisfiesByRule_converse hnull hstring .equal
        _ = .ok v.isShownInFull := by rw [satisfiesByRule_ownText hnull]; rfl

end LogFilter.Value
