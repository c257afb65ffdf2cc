import LogFilter.Condition.Eval
import LogFilter.Except
import LogFilter.Proofs.Condition.Tree

/-!
# Evaluation without short cuts

The evaluator does not look at the right operand of `and` and `or` if the left one decides. The eager
evaluator of this module differs in that alone: it evaluates both operands, the left one first, and
both have to be boolean.

Whatever value the eager evaluator gives, the other one gives too (`Expr.refines_eager`), so a short
cut never changes a value and never brings in an error. It can only replace an error by a value, and
that happens exactly if the right operand of an `and` or an `or` somewhere in the expression has no
boolean value.
-/

namespace LogFilter.Expr

/-- Two truth values combined, of which the second is asked for whatever the first one is. -/
def both (combine : Bool → Bool → Bool) (left right : Except EvalError Bool) :
    Except EvalError Value :=
  match left with
  | .error error => .error error
  | .ok x => right.map fun y => .bool (combine x y)

mutual

/-- The value of an expression for an event if `and` and `or` always evaluate both operands. -/
def evaluateEagerly (event : Event) : Expr → Except EvalError Value
  | call name arguments method =>
    match evaluateAllEagerly event arguments with
    | .error error => .error error
    | .ok values => (method.call event values).mapError (EvalError.call name)
  | not a => (a.asBoolean (evaluateEagerly event a)).map fun b => .bool !b
  | and a b =>
    both Bool.and (a.asBoolean (evaluateEagerly event a)) (b.asBoolean (evaluateEagerly event b))
  | or a b =>
    both Bool.or (a.asBoolean (evaluateEagerly event a)) (b.asBoolean (evaluateEagerly event b))
  | relation r a b =>
    match evaluateEagerly event a with
    | .error error => .error error
    | .ok left =>
      match evaluateEagerly event b with
      | .error error => .error error
      | .ok right => ((Value.satisfies r left right).mapError EvalError.comparison).map Value.bool
  -- the others have no parts
  | e => evaluate event e

/-- The values of expressions, from the left, up to the first one that has none. -/
def evaluateAllEagerly (event : Event) : List Expr → Except EvalError (List Value)
  | [] => .ok []
  | a :: as =>
    match evaluateEagerly event a with
    | .error error => .error error
    | .ok v => (evaluateAllEagerly event as).map (v :: ·)

end

section

variable {event : Event}

theorem evaluateAllEagerly_cons {a : Expr} {as : List Expr} :
    evaluateAllEagerly event (a :: as) =
      evaluateEagerly event a >>= fun v => (evaluateAllEagerly event as).map (v :: ·) := by
  rw [evaluateAllEagerly]
  cases evaluateEagerly event a <;> rfl

theorem evaluateEagerly_call {name : String} {arguments : List Expr} {method : Method} :
    evaluateEagerly event (call name arguments method) =
      evaluateAllEagerly event arguments >>= fun values =>
        (method.call event values).mapError (EvalError.call name) := by
  rw [evaluateEagerly]
  cases evaluateAllEagerly event arguments <;> rfl

theorem evaluateEagerly_relation {r : Relation} {a b : Expr} :
    evaluateEagerly event (relation r a b) =
      evaluateEagerly event a >>= fun left => evaluateEagerly event b >>= fun right =>
        ((Value.satisfies r left right).mapError EvalError.comparison).map Value.bool := by
  rw [evaluateEagerly]
  cases evaluateEagerly event a with
  | error error => rfl
  | ok left => cases evaluateEagerly event b <;> rfl

end

/-! ## When the parts of an evaluation have a value -/

theorem asBoolean_eq_ok {e : Expr} {result : Except EvalError Value} {b : Bool} :
    e.asBoolean result = .ok b ↔ result = .ok (.bool b) := by
  cases result with
  | error error => simp [asBoolean]
  | ok v => cases v <;> simp [asBoolean, Value.asBool?]

theorem both_eq_ok {combine : Bool → Bool → Bool} {left right : Except EvalError Bool} {v : Value} :
    both combine left right = .ok v ↔
      ∃ x y, left = .ok x ∧ right = .ok y ∧ .bool (combine x y) = v := by
  cases left with
  | error error => simp [both]
  | ok x => simp [both, Except.map_eq_ok]

/-- Where the right operand has a truth value, it makes no difference to a conjunction whether it is
asked for. -/
theorem both_eq_conjunction {left right : Except EvalError Bool} {y : Bool} (h : right = .ok y) :
    both Bool.and left right = (conjunction left fun _ => right).map Value.bool := by
  subst h
  match left with
  | .error _ | .ok true | .ok false => rfl

/-- Where the right operand has a truth value, it makes no difference to a disjunction whether it is
asked for. -/
theorem both_eq_disjunction {left right : Except EvalError Bool} {y : Bool} (h : right = .ok y) :
    both Bool.or left right = (disjunction left fun _ => right).map Value.bool := by
  subst h
  match left with
  | .error _ | .ok true | .ok false => rfl

/-! ## What the eager evaluator needs -/

section

variable {event : Event} {e : Expr} {v : Value}

theorem exists_of_evaluateAllEagerly {arguments : List Expr} {values : List Value}
    (h : evaluateAllEagerly event arguments = .ok values) :
    ∀ a ∈ arguments, ∃ w, evaluateEagerly event a = .ok w := by
  induction arguments generalizing values with
  | nil => simp
  | cons a as ih =>
    rw [evaluateAllEagerly_cons] at h
    obtain ⟨w, ha, h⟩ := Except.bind_eq_ok.1 h
    obtain ⟨ws, has, -⟩ := Except.map_eq_ok.1 h
    exact List.forall_mem_cons.2 ⟨⟨w, ha⟩, ih has⟩

/-- If the eager evaluator gives a value to an expression, it gives one to each child. -/
theorem exists_of_evaluateEagerly (h : evaluateEagerly event e = .ok v) :
    ∀ c ∈ e.children, ∃ w, evaluateEagerly event c = .ok w := by
  cases e with
  | call name arguments method =>
    rw [evaluateEagerly_call] at h
    obtain ⟨values, hvalues, -⟩ := Except.bind_eq_ok.1 h
    exact exists_of_evaluateAllEagerly hvalues
  | not a =>
    rw [evaluateEagerly, Except.map_eq_ok] at h
    obtain ⟨x, hx, -⟩ := h
    exact List.forall_mem_singleton.2 ⟨_, asBoolean_eq_ok.1 hx⟩
  | and a b | or a b =>
    rw [evaluateEagerly, both_eq_ok] at h
    obtain ⟨x, y, hx, hy, -⟩ := h
    exact List.forall_mem_cons.2
      ⟨⟨_, asBoolean_eq_ok.1 hx⟩, List.forall_mem_singleton.2 ⟨_, asBoolean_eq_ok.1 hy⟩⟩
  | relation r a b =>
    rw [evaluateEagerly_relation] at h
    obtain ⟨left, ha, h⟩ := Except.bind_eq_ok.1 h
    obtain ⟨right, hb, -⟩ := Except.bind_eq_ok.1 h
    exact List.forall_mem_cons.2 ⟨⟨left, ha⟩, List.forall_mem_singleton.2 ⟨right, hb⟩⟩
  | _ => simp [children]

/-- At `and` and `or`, the right operand has a boolean value. -/
def HasBooleanRight (event : Event) : Expr → Prop
  | and _ b | or _ b => ∃ y, evaluate event b = .ok (.bool y)
  | _ => True

theorem evaluateAllEagerly_eq {arguments : List Expr}
    (h : ∀ a ∈ arguments, evaluateEagerly event a = evaluate event a) :
    evaluateAllEagerly event arguments = evaluateAll event arguments := by
  induction arguments with
  | nil => rfl
  | cons a as ih =>
    obtain ⟨ha, has⟩ := List.forall_mem_cons.1 h
    rw [evaluateAllEagerly_cons, evaluateAll_cons, ha, ih has]

/-- Where every right operand is boolean, both evaluators do the same. -/
theorem evaluateEagerly_eq (h : e.All (HasBooleanRight event)) :
    evaluateEagerly event e = evaluate event e := by
  induction e using Expr.induction with
  | step e ih =>
    have inside := fun c hc => ih c hc (h.inside hc)
    cases e with
    | call name arguments method =>
      have hall : evaluateAllEagerly event arguments = _ := evaluateAllEagerly_eq inside
      rw [evaluateEagerly_call, evaluate_call, hall]
    | not a => rw [evaluateEagerly, evaluate, inside a (by simp [children])]
    | and a b =>
      obtain ⟨y, hy⟩ : ∃ y, evaluate event b = .ok (.bool y) := h.here
      rw [evaluateEagerly, evaluate, inside a (by simp [children]), inside b (by simp [children]),
        both_eq_conjunction (asBoolean_eq_ok.2 hy)]
    | or a b =>
      obtain ⟨y, hy⟩ : ∃ y, evaluate event b = .ok (.bool y) := h.here
      rw [evaluateEagerly, evaluate, inside a (by simp [children]), inside b (by simp [children]),
        both_eq_disjunction (asBoolean_eq_ok.2 hy)]
    | relation r a b =>
      rw [evaluateEagerly_relation, evaluate_relation, inside a (by simp [children]),
        inside b (by simp [children])]
    | _ => rfl

/-- Where the eager evaluator gives a value, every right operand is boolean. -/
theorem all_hasBooleanRight (h : evaluateEagerly event e = .ok v) :
    e.All (HasBooleanRight event) := by
  induction e using Expr.induction generalizing v with
  | step e ih =>
    have inside : ∀ c ∈ e.children, c.All (HasBooleanRight event) := fun c hc => by
      obtain ⟨w, hw⟩ := exists_of_evaluateEagerly h c hc
      exact ih c hc hw
    refine ⟨?_, inside⟩
    -- inside of the right operand nothing is skipped, so its eager value is its value
    cases e with
    | and a b | or a b =>
      rw [evaluateEagerly, both_eq_ok] at h
      obtain ⟨-, y, -, hy, -⟩ := h
      have hb := evaluateEagerly_eq (inside b (by simp [children]))
      exact ⟨y, hb ▸ asBoolean_eq_ok.1 hy⟩
    | _ => trivial

end

/-- **Evaluation refines eager evaluation.** A value of the eager evaluator is the value, an error
means that the eager evaluator fails too, and a value is lost to the eager evaluator exactly if some
`and` or `or` inside of the expression has no boolean value on its right. -/
theorem refines_eager (event : Event) (e : Expr) :
    (∀ v, evaluateEagerly event e = .ok v → evaluate event e = .ok v) ∧
      (∀ error, evaluate event e = .error error →
        ∃ error', evaluateEagerly event e = .error error') ∧
      ∀ v, evaluate event e = .ok v →
        ((∃ error, evaluateEagerly event e = .error error) ↔ ¬e.All (HasBooleanRight event)) := by
  have hvalue : ∀ v, evaluateEagerly event e = .ok v → evaluate event e = .ok v := fun v h =>
    evaluateEagerly_eq (all_hasBooleanRight h) ▸ h
  refine ⟨hvalue, fun error herror => ?_, fun v hv => ?_⟩
  · cases heager : evaluateEagerly event e with
    | error error' => exact ⟨error', rfl⟩
    | ok v => exact absurd (hvalue v heager) (by simp [herror])
  · cases heager : evaluateEagerly event e with
    | error error' =>
      refine iff_of_true ⟨error', rfl⟩ fun hall => ?_
      exact absurd (evaluateEagerly_eq hall) (by simp [heager, hv])
    | ok w => exact iff_of_false (by simp) (Classical.not_not.2 (all_hasBooleanRight heager))

/-- A warning of the logger `backup` in the first moment of 2024. -/
def warning : Event :=
  .plain .warn "backup" "disk full" ⟨⟨2024, 1, 1, by decide⟩, .midnight⟩

/-- The condition `(exception != null) or (level == loglevel.Warn)`. -/
def failureOrWarning : Expr :=
  .or (.relation .notEqual .exception (.literal .null))
    (.relation .equal .level (.literal (.level .warn)))

/-- For a warning without an exception, the left operand leaves the answer open. -/
theorem refines_eager_failureOrWarning :
    evaluateEagerly warning failureOrWarning = .ok (.bool true) ∧
      evaluate warning failureOrWarning = .ok (.bool true) := by
  have heager : evaluateEagerly warning failureOrWarning = .ok (.bool true) := rfl
  exact ⟨heager, (refines_eager warning failureOrWarning).1 _ heager⟩

/-- In `true or message`, the eager evaluator fails at the message. -/
example :
    evaluate warning (.or (.literal (.bool true)) .message) = .ok (.bool true) ∧
      evaluateEagerly warning (.or (.literal (.bool true)) .message) =
        .error (.notBoolean .string "message") :=
  ⟨rfl, rfl⟩

end LogFilter.Expr
