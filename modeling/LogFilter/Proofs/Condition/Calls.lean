import LogFilter.Condition.Eval
import LogFilter.Proofs.Condition.Canonical
import LogFilter.Proofs.Condition.Formed
import LogFilter.Proofs.Method.Resolution

/-!
# Calls get as many values as their methods accept

A registry finds a method only for a number of arguments that the method accepts, the parser asks it
for the number of arguments that a call has, and the evaluator gives the method one value for each of
them. So whoever calls a method of a parsed condition is never told that the number is wrong.

That the check of the number always passes is said in two ways: at every call of the condition, the
method runs; and the whole evaluation stays the same if the check is replaced by anything else
(`evaluateWith`).
-/

namespace LogFilter

/-! ## Standard methods -/

namespace Method

/-- The method neither complains about the number of these values nor looks past the last of them. -/
def StaysWithin (method : Method) (values : List Value) : Prop :=
  (method.arity.isVariadic = true → ∃ a b rest, values = a :: b :: rest) ∧
    ∀ event min max actual, method.run event values ≠ .error (.argumentCount min max actual)

theorem two_or_three {values : List Value} (h : (Arity.between 2 3).accepts values.length = true) :
    (∃ a b, values = [a, b]) ∨ ∃ a b c, values = [a, b, c] := by
  have hlength : 2 ≤ values.length ∧ values.length ≤ 3 := Arity.accepts_iff.1 h
  obtain hl | hl : values.length = 2 ∨ values.length = 3 := by omega
  · exact Or.inl (List.length_eq_two.1 hl)
  · exact Or.inr (List.length_eq_three.1 hl)

theorem flag_ne_argumentCount (v : Value) (min max actual : Nat) :
    v.flag ≠ .error (.argumentCount min max actual) := by
  unfold Value.flag
  cases (v.convert? .bool).bind Value.asBool? <;> simp

theorem findPattern_ne_argumentCount (text pattern options : String) (min max actual : Nat) :
    findPattern text pattern options ≠ .error (.argumentCount min max actual) := by
  unfold findPattern
  split
  · simp
  · split <;> simp

theorem ofRelation_staysWithin (ignoreCase : Bool) (relation : TextRelation) {values : List Value}
    (h : (Arity.between 2 3).accepts values.length = true) :
    (ofRelation ignoreCase relation).StaysWithin values := by
  rcases two_or_three h with ⟨a, b, rfl⟩ | ⟨a, b, flag, rfl⟩
  · exact ⟨fun _ => ⟨a, b, [], rfl⟩, fun _ _ _ _ => by simp [ofRelation]⟩
  · exact ⟨fun _ => ⟨a, b, [flag], rfl⟩,
      fun _ min max actual => Except.map_eq_error.not.2 (flag_ne_argumentCount flag min max actual)⟩

theorem patternMatches_staysWithin {values : List Value}
    (h : (Arity.between 2 3).accepts values.length = true) :
    patternMatches.StaysWithin values := by
  rcases two_or_three h with ⟨a, b, rfl⟩ | ⟨a, b, options, rfl⟩
  · exact ⟨fun _ => ⟨a, b, [], rfl⟩,
      fun _ _ _ _ => Except.map_eq_error.not.2 (findPattern_ne_argumentCount _ _ _ _ _ _)⟩
  · exact ⟨fun _ => ⟨a, b, [options], rfl⟩,
      fun _ _ _ _ => Except.map_eq_error.not.2 (findPattern_ne_argumentCount _ _ _ _ _ _)⟩

theorem equals_staysWithin {values : List Value}
    (h : (Arity.exact 2).accepts values.length = true) : equals.StaysWithin values := by
  obtain ⟨hmin, hmax⟩ := Arity.accepts_iff.1 h
  obtain ⟨a, b, rfl⟩ := List.length_eq_two.1 (le_antisymm hmax hmin)
  exact ⟨fun hv => absurd hv (by decide), fun _ _ _ _ => by simp [equals, ofExact]⟩

theorem length_staysWithin {values : List Value}
    (h : (Arity.exact 1).accepts values.length = true) : length.StaysWithin values := by
  obtain ⟨hmin, hmax⟩ := Arity.accepts_iff.1 h
  obtain ⟨a, rfl⟩ := List.length_eq_one_iff.1 (le_antisymm hmax hmin)
  exact ⟨fun hv => absurd hv (by decide), fun _ _ _ _ => by simp [length, ofExact]⟩

/-- **Given a number of values that it accepts, a standard method stays within them.** -/
theorem standard_staysWithin {name : String} {method : Method} (hm : (name, method) ∈ standard)
    {values : List Value} (h : method.arity.accepts values.length = true) :
    method.StaysWithin values := by
  simp only [standard, List.mem_cons, Prod.mk.injEq, List.not_mem_nil, or_false] at hm
  rcases hm with ⟨_, rfl⟩ | ⟨_, rfl⟩ | ⟨_, rfl⟩ | ⟨_, rfl⟩ | ⟨_, rfl⟩ | ⟨_, rfl⟩ | ⟨_, rfl⟩
  · exact equals_staysWithin h
  · exact ofRelation_staysWithin _ _ h
  · exact ofRelation_staysWithin _ _ h
  · exact ofRelation_staysWithin _ _ h
  · exact ofRelation_staysWithin _ _ h
  · exact length_staysWithin h
  · exact patternMatches_staysWithin h

end Method

/-! ## Another way to call -/

/-- A way to call methods with values for an event. -/
abbrev Caller := Method → Event → List Value → Except MethodError Value

namespace Expr

mutual

/-- The value of an expression for an event if methods are called in another way. -/
def evaluateWith (call : Caller) (event : Event) : Expr → Except EvalError Value
  | .call name arguments method =>
    match evaluateAllWith call event arguments with
    | .error error => .error error
    | .ok values => (call method event values).mapError (EvalError.call name)
  | not a => (a.asBoolean (evaluateWith call event a)).map fun b => .bool !b
  | and a b =>
    (conjunction (a.asBoolean (evaluateWith call event a))
      fun _ => b.asBoolean (evaluateWith call event b)).map Value.bool
  | or a b =>
    (disjunction (a.asBoolean (evaluateWith call event a))
      fun _ => b.asBoolean (evaluateWith call event b)).map Value.bool
  | relation r a b =>
    match evaluateWith call event a with
    | .error error => .error error
    | .ok left =>
      match evaluateWith call event b with
      | .error error => .error error
      | .ok right => ((Value.satisfies r left right).mapError EvalError.comparison).map Value.bool
  -- the others have no parts
  | e => evaluate event e

/-- The values of expressions, from the left, up to the first one that has none. -/
def evaluateAllWith (call : Caller) (event : Event) : List Expr → Except EvalError (List Value)
  | [] => .ok []
  | a :: as =>
    match evaluateWith call event a with
    | .error error => .error error
    | .ok v => (evaluateAllWith call event as).map (v :: ·)

end

/-- There is one value for each expression. -/
theorem evaluateAll_length {event : Event} {arguments : List Expr} {values : List Value}
    (h : evaluateAll event arguments = .ok values) : values.length = arguments.length := by
  induction arguments generalizing values with
  | nil =>
    obtain rfl : [] = values := by simpa [evaluateAll] using h
    rfl
  | cons a as ih =>
    rw [evaluateAll] at h
    cases ha : evaluate event a with
    | error error => exact absurd h (by simp [ha])
    | ok v =>
      simp only [ha, Except.map_eq_ok] at h
      obtain ⟨vs, hvs, rfl⟩ := h
      rw [List.length_cons, List.length_cons, ih hvs]

/-- At a call, another way to call does the same with as many values as there are arguments. -/
def AgreesWith (call : Caller) (event : Event) : Expr → Prop
  | .call _ arguments method => ∀ values : List Value, values.length = arguments.length →
      call method event values = method.call event values
  | _ => True

section

variable {call : Caller} {event : Event}

theorem evaluateAllWith_eq {arguments : List Expr}
    (h : ∀ a ∈ arguments, evaluateWith call event a = evaluate event a) :
    evaluateAllWith call event arguments = evaluateAll event arguments := by
  induction arguments with
  | nil => rfl
  | cons a as ih =>
    obtain ⟨ha, has⟩ := List.forall_mem_cons.1 h
    cases hvalue : evaluate event a with
    | error error => simp only [evaluateAllWith, evaluateAll, ha, hvalue]
    | ok v => simp only [evaluateAllWith, evaluateAll, ha, hvalue, ih has]

/-- A way to call that agrees at every call of an expression gives the same value. -/
theorem evaluateWith_eq {e : Expr} (h : e.All (AgreesWith call event)) :
    evaluateWith call event e = evaluate event e := by
  induction e using Expr.induction with
  | step e ih =>
    have inside := fun c hc => ih c hc (h.inside hc)
    cases e with
    | call name arguments method =>
      have hall : evaluateAllWith call event arguments = _ := evaluateAllWith_eq inside
      rw [evaluateWith, evaluate, hall]
      cases hvalues : evaluateAll event arguments with
      | error error => rfl
      | ok values => simp only [h.here values (evaluateAll_length hvalues)]
    | not a => rw [evaluateWith, evaluate, inside a (by simp [children])]
    | and a b | or a b =>
      rw [evaluateWith, evaluate, inside a (by simp [children]), inside b (by simp [children])]
    | relation r a b =>
      have ha := inside a (by simp [children])
      have hb := inside b (by simp [children])
      cases hleft : evaluate event a with
      | error error => simp only [evaluateWith, evaluate, ha, hleft]
      | ok left =>
        cases hright : evaluate event b with
        | error error => simp only [evaluateWith, evaluate, ha, hb, hleft, hright]
        | ok right => simp only [evaluateWith, evaluate, ha, hb, hleft, hright]
    | _ => rfl

end

/-! ## The calls of parsed conditions -/

/-- At a call, the method accepts the number of arguments. For an event there are as many values, so
the method runs on them, and a standard method stays within them. -/
def FitsCalls (event : Event) : Expr → Prop
  | .call _ arguments method =>
    method.arity.accepts arguments.length = true ∧
      ∀ values, evaluateAll event arguments = .ok values →
        values.length = arguments.length ∧
          method.call event values = method.run (if method.usesEvent then some event else none) values ∧
          ((∃ name, (name, method) ∈ Method.standard) → method.StaysWithin values)
  | _ => True

/-- A method that accepts the number of values runs on them. -/
theorem call_eq_run {method : Method} {values : List Value}
    (h : method.arity.accepts values.length = true) (event : Event) :
    method.call event values =
      method.run (if method.usesEvent then some event else none) values := if_pos h

variable {calls : List (String × Method)} {compile : LayoutCompiler}

/-- A call that a registry resolved fits. -/
theorem IsFormed.fitsCalls {e : Expr}
    (h : e.IsFormed ⟨(Registry.empty.registerAll calls).resolve, compile⟩) (event : Event) :
    e.FitsCalls event := by
  cases e with
  | call name arguments method =>
    obtain ⟨haccepts, _⟩ := Registry.accepts_of_resolve h.2.2
    refine ⟨haccepts, fun values hvalues => ?_⟩
    have hlength := evaluateAll_length hvalues
    rw [← hlength] at haccepts
    refine ⟨hlength, call_eq_run haccepts event, ?_⟩
    rintro ⟨standardName, hstandard⟩
    exact Method.standard_staysWithin hstandard haccepts
  | _ => trivial

/-- **In a condition that was parsed with a registry, every call fits**, and whatever is done about a
wrong number of values instead, the value of the condition is the same for every event. -/
theorem calls_fit {text : String} {e : Expr}
    (h : Expr.parse ⟨(Registry.empty.registerAll calls).resolve, compile⟩ text = .ok e)
    (event : Event) :
    e.All (FitsCalls event) ∧
      ∀ call : Caller,
        (∀ method values, method.arity.accepts values.length = true →
          call method event values = method.call event values) →
        e.evaluateWith call event = e.evaluate event := by
  have hfits : e.All (FitsCalls event) :=
    (isFormed_of_parse h).mono fun _ hformed => hformed.fitsCalls event
  refine ⟨hfits, fun call hcall => evaluateWith_eq (hfits.mono fun e he => ?_)⟩
  cases e with
  | call name arguments method =>
    intro values hlength
    exact hcall method values (hlength ▸ he.1)
  | _ => trivial

/-- A call of a method that takes two or three values, with two. -/
def callOfTwo : Expr := .call "contains" [.message, .literal (.string "it")] Method.length

/-- In the condition `contains(message, 'it')`, the call fits for every event. -/
theorem calls_fit_callOfTwo :
    ∃ e, Expr.parse ⟨(Registry.empty.registerAll Method.standard).resolve, Template.compile⟩
        callOfTwo.text = .ok e ∧
      callOfTwo.same e = true ∧ ∀ event, e.All (FitsCalls event) := by
  have hname : (Tokens.ofText "contains").words = [.keyword "contains"] := by
    have hbegins := begins_keyword_of_delimited (s := "contains") (by decide +kernel) delimited_nil
    rw [List.append_nil] at hbegins
    exact (begins_nil hbegins).2
  have hprintable : callOfTwo.All (IsPrintable Registry.standard.resolve) := by
    rw [callOfTwo, all_two rfl]
    exact ⟨⟨hname, by decide +kernel, _, rfl⟩, (all_leaf rfl).2 trivial,
      (all_leaf rfl).2 (show Text.occursIn _ _ = false by decide +kernel)⟩
  obtain ⟨e, hparse, hsame⟩ := exists_parse_text (hprintable.mono fun _ => IsPrintable.isReadable)
  exact ⟨e, hparse, hsame.2 (hprintable.mono fun _ => IsPrintable.isStable),
    fun event => (calls_fit hparse event).1⟩

end Expr

end LogFilter
