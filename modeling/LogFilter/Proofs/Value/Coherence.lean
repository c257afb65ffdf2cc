import LogFilter.Proofs.Value.Comparison
import Mathlib.Logic.ExistsUnique

/-!
# The six operators together

Each operator is asked on its own, but the answers for two values belong together.

* With the operands exchanged, the converse operator gives the same answer, or the same error with
  the kinds exchanged: `Value.satisfies_converse`. This holds of nulls too.
* Behind the six answers there is one order of the two values, `Value.IsOrderedBy`, unless their
  kinds have nothing in common or both are exceptions. So one of `<`, `==` and `>` is true, and
  `!=`, `<=` and `>=` are the opposites of `==`, `>` and `<`: `Value.operators_coherent`.
-/

namespace LogFilter

namespace Relation

theorem converse_converse (relation : Relation) : relation.converse.converse = relation := by
  cases relation <;> rfl

/-- The operator that says the opposite. -/
def negation : Relation → Relation
  | equal => notEqual
  | notEqual => equal
  | less => greaterOrEqual
  | greaterOrEqual => less
  | greater => lessOrEqual
  | lessOrEqual => greater

/-- The answers of the six operators belong together: one of `<`, `==` and `>` is true and the other
two are not, and operators that say the opposite have opposite answers. -/
structure AreCoherent (answer : Relation → Bool) : Prop where
  exactlyOne : ∃! relation, relation ∈ [less, equal, greater] ∧ answer relation = true
  opposite : ∀ relation, answer relation.negation = !answer relation

theorem holds_negation (relation : Relation) (o : Ordering) :
    relation.negation.holds o = !relation.holds o := by
  cases relation <;> cases o <;> rfl

/-- The operator among `<`, `==` and `>` that an order satisfies. -/
def ofOrdering : Ordering → Relation
  | .lt => less
  | .eq => equal
  | .gt => greater

theorem eq_ofOrdering_iff {relation : Relation} {o : Ordering} :
    relation = ofOrdering o ↔ relation ∈ [less, equal, greater] ∧ relation.holds o = true := by
  cases relation <;> cases o <;> decide

/-- What an order says to the operators is coherent. -/
theorem areCoherent_holds (o : Ordering) : AreCoherent fun relation => relation.holds o where
  exactlyOne := ⟨ofOrdering o, eq_ofOrdering_iff.1 rfl, fun _ h => eq_ofOrdering_iff.2 h⟩
  opposite := fun relation => holds_negation relation o

end Relation

namespace Value

variable {l r : Value}

/-- All operators answer as for operands that stand in an order. -/
def IsOrderedBy (l r : Value) (o : Ordering) : Prop :=
  ∀ relation : Relation, satisfies relation l r = .ok (relation.holds o)

/-- Null comes before every other value, on whichever side it is. -/
theorem exists_order_of_null (h : l.kind = .null ∨ r.kind = .null) :
    ∃ o, IsOrderedBy l r o ∧ IsOrderedBy r l o.swap := by
  cases l with
  | null =>
    cases r with
    | null => exact ⟨.eq, fun _ => rfl, fun _ => rfl⟩
    | _ => exact ⟨.lt, fun _ => rfl, fun _ => rfl⟩
  | _ =>
    cases r with
    | null => exact ⟨.gt, fun _ => rfl, fun _ => rfl⟩
    | _ => exact absurd h (by simp [kind])

/-! ## Operands in the other order -/

/-- Null on one side or on both decides the answer, whichever operand comes first. -/
theorem satisfies_converse_of_null (h : l.kind = .null ∨ r.kind = .null) (relation : Relation) :
    satisfies relation.converse r l =
      (satisfies relation l r).mapError CompareError.mirror := by
  obtain ⟨o, ho, hback⟩ := exists_order_of_null h
  rw [ho, hback, relation.holds_converse]
  rfl

theorem satisfies_converse_of_not_null (hl : l.kind ≠ .null) (hr : r.kind ≠ .null)
    (relation : Relation) :
    satisfies relation.converse r l =
      (satisfies relation l r).mapError CompareError.mirror := by
  rw [satisfies_eq_byRule hl hr, satisfies_eq_byRule hr hl, satisfiesByRule_converse hl hr]

/-- **Operands may change places** with the converse operator. -/
theorem satisfies_converse (relation : Relation) (l r : Value) :
    satisfies relation.converse r l =
      (satisfies relation l r).mapError CompareError.mirror := by
  by_cases h : l.kind = .null ∨ r.kind = .null
  · exact satisfies_converse_of_null h relation
  · obtain ⟨hl, hr⟩ := not_or.1 h
    exact satisfies_converse_of_not_null hl hr relation

/-! ## One order behind all answers -/

theorem IsOrderedBy.symm {o : Ordering} (h : IsOrderedBy l r o) (hl : l.kind ≠ .null)
    (hr : r.kind ≠ .null) : IsOrderedBy r l o.swap := by
  intro relation
  have hanswer := satisfies_converse_of_not_null hl hr relation.converse
  have hholds := relation.converse.holds_converse o
  rw [Relation.converse_converse] at hanswer hholds
  rw [hanswer, h, hholds]
  rfl

/-- Two values of one kind are compared by one order, unless it is the kind of nulls or of
exceptions. -/
theorem exists_order_sameKind (hk : l.kind = r.kind) (hn : l.kind ≠ .null)
    (he : l.kind ≠ .exception) :
    ∃ o, ∀ relation : Relation, compareSameKind relation l r = .ok (relation.holds o) := by
  obtain ⟨o, ho⟩ := Option.isSome_iff_exists.1 (order?_isSome hk hn he)
  refine ⟨o, fun relation => ?_⟩
  rw [compareSameKind_eq_order (fun h => he h.1), ho]

/-- A string and a value of a kind in which it may be read stand in one order: that of the kind, or
that of the texts. -/
theorem exists_order_of_string (hs : l.kind = .string) (hr : r.kind ≠ .null)
    (h : l.kind.meeting r.kind = .byReading) : ∃ o, IsOrderedBy l r o := by
  have hl : l.kind ≠ .null := fun hl => absurd (hs.symm.trans hl) (by decide)
  have he : r.kind ≠ .exception := by
    intro he
    rw [hs, he] at h
    exact absurd h (by decide)
  have hread (relation : Relation) : satisfies relation l r = satisfiesByReading relation l r :=
    satisfies_byReading hl hr relation h
  cases hconvert : l.convert? r.kind with
  | none =>
    refine ⟨compare l.text r.text, fun relation => ?_⟩
    rw [hread, satisfiesByReading, if_pos hs, hconvert]
  | some v =>
    have hv : v.kind = r.kind := kind_of_convert? hconvert
    obtain ⟨o, ho⟩ := exists_order_sameKind hv (hv ▸ hr) (hv ▸ he)
    refine ⟨o, fun relation => ?_⟩
    rw [hread, satisfiesByReading, if_pos hs, hconvert]
    exact ho relation

theorem exists_order_byReading (hl : l.kind ≠ .null) (hr : r.kind ≠ .null)
    (h : l.kind.meeting r.kind = .byReading) : ∃ o, IsOrderedBy l r o := by
  rcases Kind.of_meeting_byReading hl hr h with ⟨hs, _, _⟩ | ⟨hs, _, _⟩
  · exact exists_order_of_string hs hr h
  · rw [Kind.meeting_comm] at h
    obtain ⟨o, ho⟩ := exists_order_of_string hs hl h
    exact ⟨o.swap, ho.symm hr hl⟩

/-- Values that have a common kind stand in one order, unless both are exceptions. -/
theorem exists_order_of_not_apart (hl : l.kind ≠ .null) (hr : r.kind ≠ .null)
    (h : ¬l.kind.Apart r.kind) (he : ¬(l.kind = .exception ∧ r.kind = .exception)) :
    ∃ o, IsOrderedBy l r o := by
  cases hm : l.kind.meeting r.kind with
  | inKind =>
    have hk : l.kind = r.kind := Kind.of_meeting_inKind hm
    obtain ⟨o, ho⟩ := exists_order_sameKind hk hl fun hle => he ⟨hle, hk ▸ hle⟩
    exact ⟨o, fun relation => (satisfies_inKind hl hr relation hm).trans (ho relation)⟩
  | asWholes => exact ⟨_, fun relation => satisfies_asWholes hl hr relation hm⟩
  | asDoubles => exact ⟨_, fun relation => satisfies_asDoubles hl hr relation hm⟩
  | byReading => exact exists_order_byReading hl hr hm
  | asTexts => exact ⟨_, fun relation => satisfies_asTexts hl hr relation hm⟩
  | apart => exact absurd ((Kind.meeting_eq_apart_iff hl hr).1 hm) h

/-- Two exceptions are the same or not, and have no order. -/
theorem satisfies_exceptions (e e' : ExceptionInfo) :
    satisfies .equal (exception e) (exception e') = .ok (e == e') ∧
      satisfies .notEqual (exception e) (exception e') = .ok (!(e == e')) ∧
      ∀ relation ∈ [Relation.less, .lessOrEqual, .greater, .greaterOrEqual],
        satisfies relation (exception e) (exception e') =
          .error (.notOrdered .exception relation) := by
  refine ⟨rfl, rfl, fun relation h => ?_⟩
  cases relation with
  | equal | notEqual => exact absurd h (by decide)
  | _ => rfl

/-- **The six operators are coherent.** Two values have no common kind, whatever the operator; or
they are exceptions, which are the same or not but have no order; or all operators answer, and the
answers belong together. -/
theorem operators_coherent (l r : Value) :
    (∀ relation, satisfies relation l r = .error (.noCommonKind l.kind r.kind)) ∨
    (l.kind = .exception ∧ r.kind = .exception ∧
      (∃ same : Bool, satisfies .equal l r = .ok same ∧ satisfies .notEqual l r = .ok (!same)) ∧
      ∀ relation ∈ [Relation.less, .lessOrEqual, .greater, .greaterOrEqual],
        satisfies relation l r = .error (.notOrdered .exception relation)) ∨
    ∃ answer : Relation → Bool, (∀ relation, satisfies relation l r = .ok (answer relation)) ∧
      Relation.AreCoherent answer := by
  have ordered (h : ∃ o, IsOrderedBy l r o) : ∃ answer : Relation → Bool,
      (∀ relation, satisfies relation l r = .ok (answer relation)) ∧
        Relation.AreCoherent answer := by
    obtain ⟨o, ho⟩ := h
    exact ⟨_, ho, Relation.areCoherent_holds o⟩
  by_cases hnull : l.kind = .null ∨ r.kind = .null
  · exact .inr (.inr (ordered ((exists_order_of_null hnull).imp fun _ h => h.1)))
  obtain ⟨hl, hr⟩ := not_or.1 hnull
  by_cases hapart : l.kind.Apart r.kind
  · exact .inl fun relation => satisfies_apart hl hr relation hapart
  by_cases he : l.kind = .exception ∧ r.kind = .exception
  · cases l with
    | exception e =>
      cases r with
      | exception e' =>
        obtain ⟨hequal, hnotEqual, hordering⟩ := satisfies_exceptions e e'
        exact .inr (.inl ⟨rfl, rfl, ⟨_, hequal, hnotEqual⟩, hordering⟩)
      | _ => exact absurd he.2 (by simp [kind])
    | _ => exact absurd he.1 (by simp [kind])
  · exact .inr (.inr (ordered (exists_order_of_not_apart hl hr hapart he)))

end Value

end LogFilter
