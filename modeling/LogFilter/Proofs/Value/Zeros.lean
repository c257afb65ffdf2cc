import LogFilter.Proofs.Decimal.ReadBack
import LogFilter.Proofs.Value.Comparison

/-!
# The sign of zero

Doubles that are the same number are identical, or they are the two zeros. So two values that are the
same can still be told apart, but only by the text of a zero. A comparison looks at that text in one
case alone: the other value is a string that cannot be read as a number. In all other cases it makes
no difference which zero a value is, `Value.satisfies_congr`.
-/

namespace LogFilter

namespace Decimal

variable {x y : Float}

theorem sameNumber_iff :
    sameNumber x y = true ↔ isNaN x = false ∧ isNaN y = false ∧ orderKey x = orderKey y := by
  simp [sameNumber, and_assoc]

/-- The same number with the same sign is the same double. -/
theorem eq_of_sameNumber (h : sameNumber x y = true) (hs : isNegative x = isNegative y) :
    x = y := by
  obtain ⟨_, _, hkey⟩ := sameNumber_iff.1 h
  have hbits : magnitudeBits x = magnitudeBits y := by
    unfold orderKey at hkey
    rw [hs] at hkey
    split at hkey <;> omega
  rw [← ofBits_magnitudeBits x, ← ofBits_magnitudeBits y, hs, hbits]

theorem compareDoubles_congr (h : sameNumber x y = true) (z : Float) :
    compareDoubles x z = compareDoubles y z := by
  obtain ⟨hx, hy, hkey⟩ := sameNumber_iff.1 h
  rw [compareDoubles, compareDoubles, hx, hy, hkey]

end Decimal

namespace Value

/-- A string that cannot be read as a number, so that a number next to it becomes a text. -/
def isTextOnly : Value → Bool
  | string s => ((string s).convert? .float).isNone
  | _ => false

/-- The zero with a sign or the zero without. -/
def zero (negative : Bool) : Value := float (Decimal.ofBits negative 0)

/-- Each zero has a text of its own. -/
theorem text_zero (negative : Bool) :
    (zero negative).text = if negative then "-0.0" else "0.0" := by
  cases negative <;> decide +kernel

/-- Two values are identical or, unless they have to be, the same. -/
def Agrees (exact : Bool) (v w : Value) : Prop := v = w ∨ exact = false ∧ v.same w = true

variable {v w l l' r r' : Value}

/-- Values that are the same are identical or the same number. -/
theorem eq_or_float_of_same (h : v.same w = true) :
    v = w ∨ ∃ x y, v = float x ∧ w = float y ∧ Decimal.sameNumber x y = true := by
  cases v <;> cases w <;> simp_all [same]

namespace Agrees

theorem refl (exact : Bool) (v : Value) : v.Agrees exact v := .inl rfl

theorem mono {exact exact' : Bool} (h : v.Agrees exact w)
    (himp : exact' = true → exact = true) : v.Agrees exact' w := by
  refine h.imp id fun ⟨he, hsame⟩ => ⟨?_, hsame⟩
  rw [← Bool.not_eq_true] at he ⊢
  exact fun h' => he (himp h')

theorem eq (h : v.Agrees true w) : v = w := h.resolve_right fun h => absurd h.1 (by decide)

/-- Values that agree are identical, or doubles that are the same number. -/
theorem eq_or_float {exact : Bool} (h : v.Agrees exact w) :
    v = w ∨ exact = false ∧ ∃ x y, v = float x ∧ w = float y ∧ Decimal.sameNumber x y = true := by
  rcases h with h | ⟨he, hsame⟩
  · exact .inl h
  · exact (eq_or_float_of_same hsame).imp id fun h => ⟨he, h⟩

variable {exact : Bool}

theorem kind_eq (h : v.Agrees exact w) : v.kind = w.kind := by
  obtain rfl | ⟨_, x, y, rfl, rfl, _⟩ := h.eq_or_float <;> rfl

theorem asBool?_eq (h : v.Agrees exact w) : v.asBool? = w.asBool? := by
  obtain rfl | ⟨_, x, y, rfl, rfl, _⟩ := h.eq_or_float <;> rfl

theorem isTextOnly_eq (h : v.Agrees exact w) : v.isTextOnly = w.isTextOnly := by
  obtain rfl | ⟨_, x, y, rfl, rfl, _⟩ := h.eq_or_float <;> rfl

end Agrees

/-! ## Comparisons -/

/-- What can be read as a number is read as a double. -/
theorem exists_double_of_isTextOnly {s : String} (h : (string s).isTextOnly = false) :
    ∃ z, (string s).convert? .float = some (float z) := by
  obtain ⟨v, hv⟩ := Option.isSome_iff_exists.1 (Option.isNone_eq_false_iff.1 h)
  have hkind : v.kind = .float := kind_of_convert? hv
  cases v with
  | float z => exact ⟨z, hv⟩
  | _ => exact absurd hkind (by simp [kind])

section

variable {x y : Float} (h : Decimal.sameNumber x y = true) (hr : r.isTextOnly = false)
  (relation : Relation)

include h hr

theorem satisfiesByRule_float :
    satisfiesByRule relation (float x) r = satisfiesByRule relation (float y) r := by
  have compared : ∀ z, (Except.ok (relation.holds (Decimal.compareDoubles x z)) :
      Except CompareError Bool) = .ok (relation.holds (Decimal.compareDoubles y z)) := fun z => by
    rw [Decimal.compareDoubles_congr h]
  cases r with
  | bool _ | int _ | float _ | level _ => exact compared _
  | string s =>
    obtain ⟨z, hz⟩ := exists_double_of_isTextOnly hr
    show satisfiesByReading relation (float x) (string s) =
      satisfiesByReading relation (float y) (string s)
    simp only [satisfiesByReading, kind, reduceCtorEq, if_false, hz]
    exact compared z
  | null | date _ | exception _ => rfl

/-- To the left of a value that is not only a text, the same numbers do the same. -/
theorem satisfies_float_left :
    satisfies relation (float x) r = satisfies relation (float y) r := by
  by_cases hnull : r.kind = .null
  · cases r with
    | null => rfl
    | _ => exact absurd hnull (by simp [kind])
  · have hfloat : ∀ z, (float z).kind ≠ .null := by simp [kind]
    rw [satisfies_eq_byRule (hfloat x) hnull, satisfies_eq_byRule (hfloat y) hnull,
      satisfiesByRule_float h hr]

/-- To the right of such a value too. -/
theorem satisfies_float_right :
    satisfies relation r (float x) = satisfies relation r (float y) := by
  by_cases hnull : r.kind = .null
  · cases r with
    | null => rfl
    | _ => exact absurd hnull (by simp [kind])
  · have hfloat : ∀ z, (float z).kind ≠ .null := by simp [kind]
    obtain ⟨other, rfl⟩ : ∃ other : Relation, relation = other.converse :=
      ⟨relation.converse, by cases relation <;> rfl⟩
    rw [satisfies_eq_byRule hnull (hfloat x), satisfies_eq_byRule hnull (hfloat y),
      satisfiesByRule_converse (hfloat x) hnull, satisfiesByRule_converse (hfloat y) hnull,
      satisfiesByRule_float h hr]

end

/-- Next to a string that is only a text, a number is compared by its text. -/
theorem satisfies_of_isTextOnly {s : String} (h : (string s).isTextOnly = true)
    (relation : Relation) (x : Float) :
    satisfies relation (string s) (float x) =
      .ok (relation.holds (compare s (float x).text)) := by
  have hnone : (string s).convert? .float = none := Option.isNone_iff_eq_none.1 h
  have hread : satisfies relation (string s) (float x) =
      satisfiesByReading relation (string s) (float x) :=
    satisfies_byReading (by simp [kind]) (by simp [kind]) relation rfl
  simp only [hread, satisfiesByReading, kind, if_true, hnone]
  rfl

/-- **Which zero a value is makes no difference to a comparison** with a value that is not only a
text. -/
theorem satisfies_congr (hl : l.Agrees r.isTextOnly l') (hr : r.Agrees l.isTextOnly r')
    (relation : Relation) : satisfies relation l r = satisfies relation l' r' := by
  have hleft : satisfies relation l r = satisfies relation l' r := by
    obtain rfl | ⟨htext, x, y, rfl, rfl, hxy⟩ := hl.eq_or_float
    · rfl
    · exact satisfies_float_left hxy htext relation
  have hright : satisfies relation l' r = satisfies relation l' r' := by
    rw [hl.isTextOnly_eq] at hr
    obtain rfl | ⟨htext, x, y, rfl, rfl, hxy⟩ := hr.eq_or_float
    · rfl
    · exact satisfies_float_right hxy htext relation
  rw [hleft, hright]

end Value

end LogFilter
