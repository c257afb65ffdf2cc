import LogFilter.Condition.Printer

/-!
# Evaluating conditions

The value of an expression for one event. Operands are evaluated from the left; the right operand of
`and` and `or` only if the left one leaves the answer open.
-/

namespace LogFilter

/-- Why an expression has no value for an event. -/
inductive EvalError
  /-- The expression in words should be true or false but is of another kind. -/
  | notBoolean (kind : Kind) (expression : String)
  | comparison (cause : CompareError)
  | call (name : String) (cause : MethodError)
  deriving DecidableEq, Repr

def EvalError.message : EvalError → String
  | notBoolean kind expression =>
    "Expected a boolean value in '" ++ expression ++ "', got " ++ kind.name
  | comparison cause => cause.message
  | call name cause => "Condition method '" ++ name ++ "' failed: " ++ cause.message

namespace Expr

/-- The truth value that an expression has turned out to be. -/
def asBoolean (e : Expr) (result : Except EvalError Value) : Except EvalError Bool :=
  match result with
  | .error error => .error error
  | .ok v =>
    match v.asBool? with
    | some b => .ok b
    | none => .error (.notBoolean v.kind e.text)

/-- The conjunction of two truth values, of which the second is not asked for if the first is
false. -/
def conjunction (left : Except EvalError Bool) (right : Unit → Except EvalError Bool) :
    Except EvalError Bool :=
  match left with
  | .ok true => right ()
  | other => other

/-- The disjunction of two truth values, of which the second is not asked for if the first is
true. -/
def disjunction (left : Except EvalError Bool) (right : Unit → Except EvalError Bool) :
    Except EvalError Bool :=
  match left with
  | .ok false => right ()
  | other => other

mutual

/-- The value of an expression for an event. -/
def evaluate (event : Event) : Expr → Except EvalError Value
  | literal v => .ok v
  | layout l => .ok (.string (l.render event))
  | level => .ok (.level event.level)
  | logger => .ok (.string event.logger)
  | message => .ok (.string event.message)
  | exception =>
    match event.exception with
    | some e => .ok (.exception e)
    | none => .ok .null
  | call name arguments method =>
    match evaluateAll event arguments with
    | .error error => .error error
    | .ok values => (method.call event values).mapError (EvalError.call name)
  | not a => (a.asBoolean (evaluate event a)).map fun b => .bool !b
  | and a b =>
    (conjunction (a.asBoolean (evaluate event a)) fun _ => b.asBoolean (evaluate event b)).map
      Value.bool
  | or a b =>
    (disjunction (a.asBoolean (evaluate event a)) fun _ => b.asBoolean (evaluate event b)).map
      Value.bool
  | relation r a b =>
    match evaluate event a with
    | .error error => .error error
    | .ok left =>
      match evaluate event b with
      | .error error => .error error
      | .ok right => ((Value.satisfies r left right).mapError EvalError.comparison).map Value.bool

/-- The values of expressions, from the left, up to the first one that has none. -/
def evaluateAll (event : Event) : List Expr → Except EvalError (List Value)
  | [] => .ok []
  | a :: as =>
    match evaluate event a with
    | .error error => .error error
    | .ok v => (evaluateAll event as).map (v :: ·)

end

/-! ## Evaluation step by step -/

section

variable {event : Event}

theorem evaluateAll_cons {a : Expr} {as : List Expr} :
    evaluateAll event (a :: as) =
      evaluate event a >>= fun v => (evaluateAll event as).map (v :: ·) := by
  rw [evaluateAll]
  cases evaluate event a <;> rfl

theorem evaluate_call {name : String} {arguments : List Expr} {method : Method} :
    evaluate event (call name arguments method) =
      evaluateAll event arguments >>= fun values =>
        (method.call event values).mapError (EvalError.call name) := by
  rw [evaluate]
  cases evaluateAll event arguments <;> rfl

theorem evaluate_relation {r : Relation} {a b : Expr} :
    evaluate event (relation r a b) =
      evaluate event a >>= fun left => evaluate event b >>= fun right =>
        ((Value.satisfies r left right).mapError EvalError.comparison).map Value.bool := by
  rw [evaluate]
  cases evaluate event a with
  | error error => rfl
  | ok left => cases evaluate event b <;> rfl

end

/-- Whether a condition holds for an event. -/
def holdsFor (e : Expr) (event : Event) : Except EvalError Bool := e.asBoolean (e.evaluate event)

end Expr

end LogFilter
