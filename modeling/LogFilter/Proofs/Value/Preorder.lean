import LogFilter.Proofs.Value.Coherence

/-!
# Values of one kind in order

Every kind but those of nulls and of exceptions has an order, in which null stands before all values
of the kind and, among doubles, what is no number before all numbers. That both fit into one order
with the values themselves is the main statement, `Value.preordered_with_null`: on the values of a
kind together with null `<=` is a total preorder, `==` its equivalence and `<` its strict part.

Transitivity within a kind comes from the comparison of that kind, `Value.order?_isLE_trans`. Those
of dates and times go through the parts one after the other, and that of doubles through a key which
only numbers have. The place of null is settled once for all kinds, in `Value.atMost_trans`.
-/

namespace LogFilter

/-! ## Transitive comparisons -/

instance : Ord Date := ⟨Date.compare⟩

instance : Ord Time := ⟨Time.compare⟩

instance : Std.TransOrd Date :=
  inferInstanceAs (Std.TransCmp (compareLex (compareOn Date.year)
    (compareLex (compareOn Date.month) (compareOn Date.day))))

instance : Std.TransOrd Time :=
  inferInstanceAs (Std.TransCmp (compareLex (compareOn Time.hour)
    (compareLex (compareOn Time.minute)
      (compareLex (compareOn Time.second) (compareOn Time.nanosecond)))))

instance : Std.TransCmp DateTime.compare :=
  inferInstanceAs (Std.TransCmp (compareLex (compareOn DateTime.date) (compareOn DateTime.time)))

namespace Decimal

/-- The place of a double among the numbers, which it has only if it is one. -/
def numberKey? (x : Float) : Option Int := if isNaN x then none else some (orderKey x)

/-- What is no number comes first because it has no place among the numbers. -/
theorem compareDoubles_eq : compareDoubles = compareOn numberKey? := by
  funext x y
  unfold compareDoubles compareOn numberKey?
  cases isNaN x <;> cases isNaN y <;> rfl

instance : Std.TransCmp compareDoubles := by
  rw [compareDoubles_eq]
  infer_instance

theorem compareDoubles_notNumbers {x y : Float} (hx : isNaN x = true) (hy : isNaN y = true) :
    compareDoubles x y = .eq := by
  rw [compareDoubles, hx, hy]

theorem compareDoubles_notNumber {x y : Float} (hx : isNaN x = true) (hy : isNaN y = false) :
    compareDoubles x y = .lt := by
  rw [compareDoubles, hx, hy]

end Decimal

/-- The kinds of which the values are ordered. -/
def Kind.ordered : List Kind := [.bool, .int, .float, .string, .date, .level]

theorem Kind.mem_ordered_iff {kind : Kind} :
    kind ∈ ordered ↔ kind ≠ .null ∧ kind ≠ .exception := by
  cases kind <;> decide

namespace Value

/-- The values satisfy the operator. -/
def Holds (relation : Relation) (l r : Value) : Prop := satisfies relation l r = .ok true

/-- Among some values all comparisons have an answer, `<=` is a total preorder, and `==` and `<` are
its equivalence and its strict part. -/
structure IsTotalPreorder (among : Value → Prop) : Prop where
  answers : ∀ l r, among l → among r → ∀ relation, ∃ answer, satisfies relation l r = .ok answer
  refl : ∀ v, among v → Holds .lessOrEqual v v
  trans : ∀ u v w, among u → among v → among w →
    Holds .lessOrEqual u v → Holds .lessOrEqual v w → Holds .lessOrEqual u w
  total : ∀ l r, among l → among r → Holds .lessOrEqual l r ∨ Holds .lessOrEqual r l
  equal_iff : ∀ l r, among l → among r →
    (Holds .equal l r ↔ Holds .lessOrEqual l r ∧ Holds .lessOrEqual r l)
  less_iff : ∀ l r, among l → among r →
    (Holds .less l r ↔ Holds .lessOrEqual l r ∧ ¬Holds .lessOrEqual r l)

variable {u v w l r : Value} {o : Ordering}

/-! ## One kind -/

/-- **The order of values of one kind is transitive.** -/
theorem order?_isLE_trans (huv : (order? u v).any Ordering.isLE = true)
    (hvw : (order? v w).any Ordering.isLE = true) :
    (order? u w).any Ordering.isLE = true := by
  -- each kind has its own comparison; values of different kinds have no order at all
  cases u with
  | null | exception _ => exact absurd huv (by simp [order?])
  | bool a =>
    cases v with
    | bool b =>
      cases w with
      | bool c => exact Std.TransCmp.isLE_trans huv hvw
      | _ => cases hvw
    | _ => cases huv
  | int i =>
    cases v with
    | int j =>
      cases w with
      | int k => exact Std.TransCmp.isLE_trans (b := j.toInt) huv hvw
      | _ => cases hvw
    | _ => cases huv
  | float x =>
    cases v with
    | float y =>
      cases w with
      | float z => exact Std.TransCmp.isLE_trans huv hvw
      | _ => cases hvw
    | _ => cases huv
  | string s =>
    cases v with
    | string t =>
      cases w with
      | string s' => exact Std.TransCmp.isLE_trans huv hvw
      | _ => cases hvw
    | _ => cases huv
  | date d =>
    cases v with
    | date d' =>
      cases w with
      | date d'' => exact Std.TransCmp.isLE_trans huv hvw
      | _ => cases hvw
    | _ => cases huv
  | level a =>
    cases v with
    | level b =>
      cases w with
      | level c => exact Std.TransCmp.isLE_trans (b := b.ordinal) huv hvw
      | _ => cases hvw
    | _ => cases huv

/-- Two values of a kind that is ordered are compared by its order. -/
theorem exists_order?_of_kind (hk : l.kind = r.kind) (ho : l.kind ∈ Kind.ordered) :
    ∃ o, order? l r = some o ∧ IsOrderedBy l r o := by
  obtain ⟨hn, he⟩ := Kind.mem_ordered_iff.1 ho
  obtain ⟨o, ho⟩ := Option.isSome_iff_exists.1 (order?_isSome hk hn he)
  refine ⟨o, ho, fun relation => ?_⟩
  have hmeeting : l.kind.meeting r.kind = .inKind := if_pos hk
  rw [satisfies_inKind hn (hk ▸ hn) relation hmeeting, compareSameKind_eq_order fun h => he h.1, ho]

/-! ## One kind and null -/

theorem IsOrderedBy.holds_iff (h : IsOrderedBy l r o) (relation : Relation) :
    Holds relation l r ↔ relation.holds o = true := by
  rw [Holds, h relation, Except.ok.injEq]

theorem IsOrderedBy.atMost_iff (h : IsOrderedBy l r o) :
    Holds .lessOrEqual l r ↔ o.isLE = true := by
  rw [h.holds_iff]
  cases o <;> decide

/-- Null comes before every other value. -/
theorem isOrderedBy_null (h : r.kind ≠ .null) : IsOrderedBy null r .lt := by
  cases r with
  | null => exact absurd rfl h
  | _ => exact fun _ => rfl

/-- Nothing but null is at most null. -/
theorem eq_null_of_atMost_null (h : Holds .lessOrEqual l null) : l = null := by
  cases l with
  | null => rfl
  | _ => cases h

/-- Null or a value of the kind. -/
def IsOrNull (kind : Kind) (v : Value) : Prop := v.kind = kind ∨ v = null

section

variable {kind : Kind} (hkind : kind ∈ Kind.ordered)

include hkind

theorem ne_null_of_ordered (hv : v.kind = kind) : v.kind ≠ .null :=
  hv ▸ (Kind.mem_ordered_iff.1 hkind).1

/-- Null and the values of a kind stand in one order. -/
theorem exists_order (hl : l.IsOrNull kind) (hr : r.IsOrNull kind) :
    ∃ o, IsOrderedBy l r o ∧ IsOrderedBy r l o.swap := by
  rcases hl with hl | rfl
  · rcases hr with hr | rfl
    · obtain ⟨o, -, ho⟩ := exists_order?_of_kind (hl.trans hr.symm) (hl ▸ hkind)
      exact ⟨o, ho, ho.symm (ne_null_of_ordered hkind hl) (ne_null_of_ordered hkind hr)⟩
    · exact exists_order_of_null (.inr rfl)
  · exact exists_order_of_null (.inl rfl)

/-- Among values of a kind `<=` is the order of the kind. -/
theorem atMost_iff_order? (hl : l.kind = kind) (hr : r.kind = kind) :
    Holds .lessOrEqual l r ↔ (order? l r).any Ordering.isLE = true := by
  obtain ⟨o, ho, hordered⟩ := exists_order?_of_kind (hl.trans hr.symm) (hl ▸ hkind)
  rw [hordered.atMost_iff, ho, Option.any_some]

theorem atMost_total (hl : l.IsOrNull kind) (hr : r.IsOrNull kind) :
    Holds .lessOrEqual l r ∨ Holds .lessOrEqual r l := by
  obtain ⟨o, ho, hback⟩ := exists_order hkind hl hr
  rw [ho.atMost_iff, hback.atMost_iff]
  cases o <;> decide

/-- Nothing but null stands before null, so of three values in order the first may be null and the
others are not, or all are values of the kind. -/
theorem atMost_trans (hu : u.IsOrNull kind) (hv : v.IsOrNull kind) (hw : w.IsOrNull kind)
    (huv : Holds .lessOrEqual u v) (hvw : Holds .lessOrEqual v w) : Holds .lessOrEqual u w := by
  rcases hw with hw | rfl
  · rcases hu with hu | rfl
    · rcases hv with hv | rfl
      · rw [atMost_iff_order? hkind hu hv] at huv
        rw [atMost_iff_order? hkind hv hw] at hvw
        rw [atMost_iff_order? hkind hu hw]
        exact order?_isLE_trans huv hvw
      · obtain rfl := eq_null_of_atMost_null huv
        exact hvw
    · exact (isOrderedBy_null (ne_null_of_ordered hkind hw)).atMost_iff.2 rfl
  · obtain rfl := eq_null_of_atMost_null hvw
    exact huv

/-- **The values of a kind and null are totally preordered.** -/
theorem isTotalPreorder : IsTotalPreorder (IsOrNull kind) where
  answers := by
    intro l r hl hr relation
    obtain ⟨o, ho, -⟩ := exists_order hkind hl hr
    exact ⟨_, ho relation⟩
  refl := by
    intro v hv
    exact or_self_iff.1 (atMost_total hkind hv hv)
  trans := fun u v w hu hv hw => atMost_trans hkind hu hv hw
  total := fun l r hl hr => atMost_total hkind hl hr
  equal_iff := by
    intro l r hl hr
    obtain ⟨o, ho, hback⟩ := exists_order hkind hl hr
    rw [ho.holds_iff, ho.atMost_iff, hback.atMost_iff]
    cases o <;> decide
  less_iff := by
    intro l r hl hr
    obtain ⟨o, ho, hback⟩ := exists_order hkind hl hr
    rw [ho.holds_iff, ho.atMost_iff, hback.atMost_iff]
    cases o <;> decide

end

/-- Null is equal to nothing but null. -/
theorem equal_null_iff : Holds .equal null v ↔ v = null := by
  by_cases hv : v.kind = .null
  · cases v with
    | null => exact iff_of_true rfl rfl
    | _ => exact absurd hv (by simp [kind])
  · rw [(isOrderedBy_null hv).holds_iff]
    refine iff_of_false (by decide) ?_
    rintro rfl
    exact hv rfl

/-- The least of the doubles that are numbers. -/
def negativeInfinity : Float := Decimal.ofBits true Decimal.infinityBits

theorem isOrderedBy_float (x y : Float) :
    IsOrderedBy (float x) (float y) (Decimal.compareDoubles x y) := fun _ => rfl

/-- **On the values of a kind and null, `<=` is a total preorder**, `==` is its equivalence and `<`
its strict part. Null comes strictly before all others and is equal only to itself. What is no
number is equal to all that is no number, and comes strictly before all numbers, minus infinity
too. -/
theorem preordered_with_null {kind : Kind} (hkind : kind ∈ Kind.ordered) :
    IsTotalPreorder (IsOrNull kind) ∧
      (∀ v, v.kind = kind → Holds .less null v) ∧
      (∀ v, IsOrNull kind v → (Holds .equal null v ↔ v = null)) ∧
      ∀ x, Decimal.isNaN x = true →
        (∀ y, Decimal.isNaN y = true → Holds .equal (float x) (float y)) ∧
        (∀ y, Decimal.isNaN y = false → Holds .less (float x) (float y)) ∧
        Holds .less (float x) (float negativeInfinity) := by
  refine ⟨isTotalPreorder hkind, ?_, fun v _ => equal_null_iff, ?_⟩
  · intro v hv
    have hv := ne_null_of_ordered hkind hv
    exact ((isOrderedBy_null hv).holds_iff .less).2 rfl
  · intro x hx
    have equal (y : Float) (hy : Decimal.isNaN y = true) : Holds .equal (float x) (float y) := by
      rw [(isOrderedBy_float x y).holds_iff, Decimal.compareDoubles_notNumbers hx hy]
      rfl
    have below (y : Float) (hy : Decimal.isNaN y = false) : Holds .less (float x) (float y) := by
      rw [(isOrderedBy_float x y).holds_iff, Decimal.compareDoubles_notNumber hx hy]
      rfl
    exact ⟨equal, below, below _ (by decide +kernel)⟩

/-- Null, what is no number and minus infinity stand in a row. -/
theorem preordered_with_null_negativeInfinity :
    Kind.float ∈ Kind.ordered ∧
      Holds .less null (float (Decimal.ofBits false (Decimal.infinityBits + 1))) ∧
      Holds .less (float (Decimal.ofBits false (Decimal.infinityBits + 1)))
        (float negativeInfinity) ∧
      Holds .lessOrEqual null (float negativeInfinity) := by
  have hkind : Kind.float ∈ Kind.ordered := by decide
  have hnan : Decimal.isNaN (Decimal.ofBits false (Decimal.infinityBits + 1)) = true := by
    decide +kernel
  obtain ⟨hpreorder, hnull, -, hfirst⟩ := preordered_with_null hkind
  have hbelow := (hfirst _ hnan).2.2
  refine ⟨hkind, hnull _ rfl, hbelow, ?_⟩
  refine hpreorder.trans _ _ _ (.inr rfl) (.inl rfl) (.inl rfl) ?_
    ((hpreorder.less_iff _ _ (.inl rfl) (.inl rfl)).1 hbelow).1
  exact ((hpreorder.less_iff _ _ (.inr rfl) (.inl rfl)).1 (hnull _ rfl)).1

end Value

end LogFilter
