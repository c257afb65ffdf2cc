import LogFilter.Value.Compare

/-!
# The order of values and the order of operands

Two values of one kind that change places are ordered the other way round, `Value.order?_swap`, and
the converse operator holds of an order turned round exactly when the operator holds of the order,
`Relation.holds_converse`. So a comparison gives the same answer in both directions,
`Value.compareSameKind_converse`: an error too is the same, with its kinds exchanged.
-/

namespace LogFilter

namespace Relation

/-- The operator that says the same with the operands exchanged. -/
def converse : Relation → Relation
  | equal => equal
  | notEqual => notEqual
  | less => greater
  | greater => less
  | lessOrEqual => greaterOrEqual
  | greaterOrEqual => lessOrEqual

theorem holds_converse (relation : Relation) (o : Ordering) :
    relation.converse.holds o.swap = relation.holds o := by
  cases relation <;> cases o <;> rfl

end Relation

/-- What is said with the operands exchanged. -/
def CompareError.mirror : CompareError → CompareError
  | noCommonKind left right => noCommonKind right left
  | notOrdered kind relation => notOrdered kind relation.converse

/-! ## Orders turned round -/

theorem Date.compare_swap (a b : Date) : Date.compare b a = (Date.compare a b).swap := by
  unfold Date.compare
  rw [Ordering.swap_then, Ordering.swap_then, ← Std.OrientedOrd.eq_swap, ← Std.OrientedOrd.eq_swap,
    ← Std.OrientedOrd.eq_swap]

theorem Time.compare_swap (a b : Time) : Time.compare b a = (Time.compare a b).swap := by
  unfold Time.compare
  rw [Ordering.swap_then, Ordering.swap_then, Ordering.swap_then, ← Std.OrientedOrd.eq_swap,
    ← Std.OrientedOrd.eq_swap, ← Std.OrientedOrd.eq_swap, ← Std.OrientedOrd.eq_swap]

theorem DateTime.compare_swap (a b : DateTime) :
    DateTime.compare b a = (DateTime.compare a b).swap := by
  unfold DateTime.compare
  rw [Ordering.swap_then, ← Date.compare_swap, ← Time.compare_swap]

/-- What is no number comes first, whichever side it is on. -/
theorem Decimal.compareDoubles_swap (x y : Float) :
    compareDoubles y x = (compareDoubles x y).swap := by
  unfold compareDoubles
  cases isNaN x with
  | true => cases isNaN y <;> rfl
  | false =>
    cases isNaN y with
    | true => rfl
    | false => exact Std.OrientedOrd.eq_swap

namespace Value

theorem order?_swap (l r : Value) : order? r l = (order? l r).map Ordering.swap := by
  cases l with
  | null => cases r <;> rfl
  | exception e => cases r <;> rfl
  | bool a =>
    cases r with
    | bool b => exact congrArg some Std.OrientedOrd.eq_swap
    | _ => rfl
  | int i =>
    cases r with
    | int j => exact congrArg some Std.OrientedOrd.eq_swap
    | _ => rfl
  | float x =>
    cases r with
    | float y => exact congrArg some (Decimal.compareDoubles_swap x y)
    | _ => rfl
  | string s =>
    cases r with
    | string t => exact congrArg some Std.OrientedOrd.eq_swap
    | _ => rfl
  | date d =>
    cases r with
    | date d' => exact congrArg some (DateTime.compare_swap d d')
    | _ => rfl
  | level a =>
    cases r with
    | level b => exact congrArg some Std.OrientedOrd.eq_swap
    | _ => rfl

/-! ## Comparison in one kind -/

/-- Values that are not two exceptions are compared by their order. -/
theorem compareSameKind_eq_order {l r : Value} (h : ¬(l.kind = .exception ∧ r.kind = .exception))
    (relation : Relation) :
    compareSameKind relation l r =
      match order? l r with
      | some o => .ok (relation.holds o)
      | none => .error (.noCommonKind l.kind r.kind) := by
  unfold compareSameKind
  split
  · exact absurd ⟨rfl, rfl⟩ h
  · rfl

/-- **Operands may change places** with the converse operator, if they are of one kind. -/
theorem compareSameKind_converse (relation : Relation) (l r : Value) :
    compareSameKind relation.converse r l =
      (compareSameKind relation l r).mapError CompareError.mirror := by
  by_cases h : l.kind = .exception ∧ r.kind = .exception
  · -- exceptions have no order, but they are equal or not
    cases l with
    | exception e =>
      cases r with
      | exception e' =>
        have hcomm : (e' == e) = (e == e') := BEq.comm
        have hne : (e' != e) = (e != e') := by rw [bne, bne, hcomm]
        cases relation with
        | equal => exact congrArg Except.ok hcomm
        | notEqual => exact congrArg Except.ok hne
        | _ => rfl
      | _ => exact absurd h.2 (by simp [kind])
    | _ => exact absurd h.1 (by simp [kind])
  · rw [compareSameKind_eq_order h, compareSameKind_eq_order (fun h' => h h'.symm), order?_swap l r]
    cases order? l r with
    | none => rfl
    | some o => exact congrArg Except.ok (relation.holds_converse o)

/-- Two values of one kind have an order, if it is not that of nulls or of exceptions. -/
theorem order?_isSome {l r : Value} (hk : l.kind = r.kind) (hn : l.kind ≠ .null)
    (he : l.kind ≠ .exception) : (order? l r).isSome = true := by
  cases l with
  | null => exact absurd rfl hn
  | exception e => exact absurd rfl he
  | _ =>
    cases r with
    | null => exact absurd hk (by simp [kind])
    | _ => first | rfl | exact absurd hk (by simp [kind])

/-- Values of one kind never lack a common kind. -/
theorem compareSameKind_ne_noCommonKind {l r : Value} (hk : l.kind = r.kind) (hn : l.kind ≠ .null)
    (relation : Relation) (a b : Kind) :
    compareSameKind relation l r ≠ .error (.noCommonKind a b) := by
  by_cases he : l.kind = .exception
  · cases l with
    | exception e =>
      cases r with
      | exception e' => cases relation <;> simp [compareSameKind]
      | _ => exact absurd hk (by simp [kind])
    | _ => exact absurd he (by simp [kind])
  · obtain ⟨o, ho⟩ := Option.isSome_iff_exists.1 (order?_isSome hk hn he)
    rw [compareSameKind_eq_order (fun h => he h.1), ho]
    simp

end Value

end LogFilter
