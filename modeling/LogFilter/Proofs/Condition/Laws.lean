import LogFilter.Condition.Eval

/-!
# Laws of `and`, `or` and `not`

Conditions obey the laws of Boolean algebra that leave the first operand first: those of De Morgan,
associativity, distribution of a left operand, and double negation. They hold with the same values
and with the same errors, although the two sides do not skip the same operands: an operand that only
one side asks for again has answered before, and answers the same.

The laws that exchange operands do not hold. `false and message` is false, but `message and false`
fails, since the message is no truth value.

* `Expr.EqualByLaws.holdsFor_eq`: conditions that the laws turn into each other, also between the
  operands of connectives, hold for the same events, and fail with the same errors.
* `Expr.boolean_laws`: the laws themselves.
-/

namespace LogFilter.Expr

/-! ## Truth values that may be missing -/

section

variable (x y z : Except EvalError Bool)

theorem conjunction_assoc :
    (conjunction (conjunction x fun _ => y) fun _ => z) =
      conjunction x fun _ => conjunction y fun _ => z := by
  match x with
  | .error _ => rfl
  | .ok true => rfl
  | .ok false => rfl

theorem disjunction_assoc :
    (disjunction (disjunction x fun _ => y) fun _ => z) =
      disjunction x fun _ => disjunction y fun _ => z := by
  match x with
  | .error _ => rfl
  | .ok true => rfl
  | .ok false => rfl

theorem map_not_conjunction :
    (conjunction x fun _ => y).map Bool.not =
      disjunction (x.map Bool.not) fun _ => y.map Bool.not := by
  match x with
  | .error _ => rfl
  | .ok true => rfl
  | .ok false => rfl

theorem map_not_disjunction :
    (disjunction x fun _ => y).map Bool.not =
      conjunction (x.map Bool.not) fun _ => y.map Bool.not := by
  match x with
  | .error _ => rfl
  | .ok true => rfl
  | .ok false => rfl

/-- If `x` is true, it is asked for twice on the right whenever `y` is false. -/
theorem conjunction_disjunction :
    (conjunction x fun _ => disjunction y fun _ => z) =
      disjunction (conjunction x fun _ => y) fun _ => conjunction x fun _ => z := by
  match x with
  | .error _ => rfl
  | .ok true => rfl
  | .ok false => rfl

/-- If `x` is false, it is asked for twice on the right whenever `y` is true. -/
theorem disjunction_conjunction :
    (disjunction x fun _ => conjunction y fun _ => z) =
      conjunction (disjunction x fun _ => y) fun _ => disjunction x fun _ => z := by
  match x with
  | .error _ => rfl
  | .ok true => rfl
  | .ok false => rfl

theorem map_not_not : (x.map Bool.not).map Bool.not = x := by
  cases x with
  | error error => rfl
  | ok b => rw [Except.map, Except.map, Bool.not_not]

end

/-! ## Connectives -/

section

variable {event : Event} {a b e : Expr}

theorem asBoolean_map_bool (e : Expr) (x : Except EvalError Bool) :
    e.asBoolean (x.map Value.bool) = x := by
  cases x <;> rfl

theorem evaluate_not :
    evaluate event (.not a) = ((a.holdsFor event).map Bool.not).map Value.bool := by
  rw [evaluate, holdsFor]
  cases a.asBoolean (evaluate event a) <;> rfl

theorem holdsFor_not : holdsFor (.not a) event = (a.holdsFor event).map Bool.not := by
  rw [holdsFor, evaluate_not, asBoolean_map_bool]

theorem holdsFor_and :
    holdsFor (.and a b) event = conjunction (a.holdsFor event) fun _ => b.holdsFor event := by
  rw [holdsFor, evaluate, asBoolean_map_bool]
  rfl

theorem holdsFor_or :
    holdsFor (.or a b) event = disjunction (a.holdsFor event) fun _ => b.holdsFor event := by
  rw [holdsFor, evaluate, asBoolean_map_bool]
  rfl

/-- Expressions that combine truth values. -/
def IsConnective : Expr → Prop
  | not _ | and _ _ | or _ _ => True
  | _ => False

/-- A connective has no values but truth values, so its own text comes up in no error. -/
theorem evaluate_of_isConnective (h : e.IsConnective) :
    evaluate event e = (e.holdsFor event).map Value.bool := by
  cases e with
  | not a =>
    rw [evaluate_not, holdsFor_not]
  | and a b =>
    rw [holdsFor_and, evaluate]
    rfl
  | or a b =>
    rw [holdsFor_or, evaluate]
    rfl
  | _ => exact absurd h id

end

/-! ## The laws -/

/-- Conditions that the laws turn into each other, applied to them or to operands of their
connectives. -/
inductive EqualByLaws : Expr → Expr → Prop
  | refl (a : Expr) : EqualByLaws a a
  | symm {a b : Expr} (h : EqualByLaws a b) : EqualByLaws b a
  | trans {a b c : Expr} (h : EqualByLaws a b) (h' : EqualByLaws b c) : EqualByLaws a c
  | inNot {a b : Expr} (h : EqualByLaws a b) : EqualByLaws (.not a) (.not b)
  | inAnd {a b c d : Expr} (hl : EqualByLaws a b) (hr : EqualByLaws c d) :
      EqualByLaws (.and a c) (.and b d)
  | inOr {a b c d : Expr} (hl : EqualByLaws a b) (hr : EqualByLaws c d) :
      EqualByLaws (.or a c) (.or b d)
  | notNot (a : Expr) : EqualByLaws (.not (.not a)) a
  | notAnd (a b : Expr) : EqualByLaws (.not (.and a b)) (.or (.not a) (.not b))
  | notOr (a b : Expr) : EqualByLaws (.not (.or a b)) (.and (.not a) (.not b))
  | andAssoc (a b c : Expr) : EqualByLaws (.and (.and a b) c) (.and a (.and b c))
  | orAssoc (a b c : Expr) : EqualByLaws (.or (.or a b) c) (.or a (.or b c))
  | andOr (a b c : Expr) : EqualByLaws (.and a (.or b c)) (.or (.and a b) (.and a c))
  | orAnd (a b c : Expr) : EqualByLaws (.or a (.and b c)) (.and (.or a b) (.or a c))

namespace EqualByLaws

variable {event : Event} {a b : Expr}

/-- **The laws change neither whether a condition holds nor the error with which it fails.** -/
theorem holdsFor_eq (h : EqualByLaws a b) : a.holdsFor event = b.holdsFor event := by
  induction h with
  | refl => rfl
  | symm _ ih => exact ih.symm
  | trans _ _ ih ih' => exact ih.trans ih'
  | inNot _ ih => rw [holdsFor_not, holdsFor_not, ih]
  | inAnd _ _ ihl ihr => rw [holdsFor_and, holdsFor_and, ihl, ihr]
  | inOr _ _ ihl ihr => rw [holdsFor_or, holdsFor_or, ihl, ihr]
  | notNot => rw [holdsFor_not, holdsFor_not, map_not_not]
  | notAnd =>
    rw [holdsFor_not, holdsFor_and, holdsFor_or, holdsFor_not, holdsFor_not, map_not_conjunction]
  | notOr =>
    rw [holdsFor_not, holdsFor_or, holdsFor_and, holdsFor_not, holdsFor_not, map_not_disjunction]
  | andAssoc => rw [holdsFor_and, holdsFor_and, holdsFor_and, holdsFor_and, conjunction_assoc]
  | orAssoc => rw [holdsFor_or, holdsFor_or, holdsFor_or, holdsFor_or, disjunction_assoc]
  | andOr =>
    rw [holdsFor_and, holdsFor_or, holdsFor_or, holdsFor_and, holdsFor_and,
      conjunction_disjunction]
  | orAnd =>
    rw [holdsFor_or, holdsFor_and, holdsFor_and, holdsFor_or, holdsFor_or,
      disjunction_conjunction]

/-- Connectives that the laws turn into each other have the same values and the same errors. -/
theorem evaluate_eq (h : EqualByLaws a b) (ha : a.IsConnective) (hb : b.IsConnective) :
    evaluate event a = evaluate event b := by
  rw [evaluate_of_isConnective ha, evaluate_of_isConnective hb, h.holdsFor_eq]

end EqualByLaws

/-- **The laws of `and`, `or` and `not`.** Both sides have the same value or the same error for
every event: the laws of De Morgan, associativity, and distribution over the operands on the right.
A condition that is denied twice is evaluated to whether it holds. -/
theorem boolean_laws (a b c : Expr) (event : Event) :
    evaluate event (.not (.and a b)) = evaluate event (.or (.not a) (.not b)) ∧
    evaluate event (.not (.or a b)) = evaluate event (.and (.not a) (.not b)) ∧
    evaluate event (.and (.and a b) c) = evaluate event (.and a (.and b c)) ∧
    evaluate event (.or (.or a b) c) = evaluate event (.or a (.or b c)) ∧
    evaluate event (.and a (.or b c)) = evaluate event (.or (.and a b) (.and a c)) ∧
    evaluate event (.or a (.and b c)) = evaluate event (.and (.or a b) (.or a c)) ∧
    evaluate event (.not (.not a)) = (a.holdsFor event).map Value.bool := by
  refine ⟨?_, ?_, ?_, ?_, ?_, ?_, ?_⟩
  · exact (EqualByLaws.notAnd a b).evaluate_eq trivial trivial
  · exact (EqualByLaws.notOr a b).evaluate_eq trivial trivial
  · exact (EqualByLaws.andAssoc a b c).evaluate_eq trivial trivial
  · exact (EqualByLaws.orAssoc a b c).evaluate_eq trivial trivial
  · exact (EqualByLaws.andOr a b c).evaluate_eq trivial trivial
  · exact (EqualByLaws.orAnd a b c).evaluate_eq trivial trivial
  · have hnot : (Expr.not (.not a)).IsConnective := trivial
    rw [evaluate_of_isConnective hnot, (EqualByLaws.notNot a).holdsFor_eq]

/-- Operands cannot be exchanged: in `message and false` the message is asked for. -/
example (event : Event) :
    evaluate event (.and (.literal (.bool false)) .message) = .ok (.bool false) ∧
      evaluate event (.and .message (.literal (.bool false))) =
        .error (.notBoolean .string "message") :=
  ⟨rfl, rfl⟩

end LogFilter.Expr
