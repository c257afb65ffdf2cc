import LogFilter.Proofs.Condition.CallOrder
import LogFilter.Proofs.Condition.Failures
import LogFilter.Proofs.Condition.Origins
import LogFilter.Proofs.Condition.Synonyms
import LogFilter.Proofs.FirstFailure

/-!
# Conditions and other methods

A resolver decides about nothing in a condition but the methods of its calls, and it can refuse
them. To parse an accepted text with another resolver is to bind the calls of its tree anew, in
their order (`Expr.parse_rebind`): the tree stays the same if the resolver has a method for every
call, else the error is that of the first call for which it has none.

Both ways out are proved in one induction over the derivation with the first resolver (`Yields`):
the words derive the expression bound anew, or the parser fails on them as the binding does.
-/

namespace LogFilter

/-! ## Calls and resolvers -/

namespace Call

/-- The resolver has a method for the call. -/
def IsFound (resolve : Resolver) (c : Call) : Prop :=
  ∃ method, resolve c.name c.arguments.length = .ok (some method)

/-- The resolver has none, and this is the error of the parser. -/
def FailsWith (resolve : Resolver) (c : Call) (error : ParseError) : Prop :=
  ∃ cause, Refuses resolve c.name c.arguments.length cause ∧ error = .unresolved c.name cause

variable {resolve : Resolver} {c : Call} {error : ParseError}

theorem FailsWith.not_isFound (h : c.FailsWith resolve error) : ¬c.IsFound resolve := by
  rintro ⟨method, hmethod⟩
  obtain ⟨cause, hcause | ⟨hnone, -⟩, -⟩ := h
  · exact absurd (hcause.symm.trans hmethod) (by simp)
  · exact absurd (hnone.symm.trans hmethod) (by simp)

end Call

namespace Expr

mutual

/-- The expression with its calls bound anew, each after those in its arguments. -/
def rebind (resolve : Resolver) : Expr → Except ParseError Expr
  | call name arguments _ => do
    let as ← rebindAll resolve arguments
    Parser.bind resolve name as
  | not a => do
    let a' ← rebind resolve a
    .ok (.not a')
  | and a b => do
    let a' ← rebind resolve a
    let b' ← rebind resolve b
    .ok (.and a' b')
  | or a b => do
    let a' ← rebind resolve a
    let b' ← rebind resolve b
    .ok (.or a' b')
  | relation r a b => do
    let a' ← rebind resolve a
    let b' ← rebind resolve b
    .ok (.relation r a' b')
  | e => .ok e

/-- Expressions with their calls bound anew, one expression after the other. -/
def rebindAll (resolve : Resolver) : List Expr → Except ParseError (List Expr)
  | [] => .ok []
  | a :: as => do
    let a' ← rebind resolve a
    let as' ← rebindAll resolve as
    .ok (a' :: as')

end

variable {resolve : Resolver} {e e' : Expr}

theorem length_rebindAll {arguments es : List Expr}
    (h : rebindAll resolve arguments = .ok es) : es.length = arguments.length := by
  induction arguments generalizing es with
  | nil =>
    obtain rfl := Except.ok.inj h
    rfl
  | cons a as ih =>
    simp only [rebindAll, Except.bind_eq_ok] at h
    obtain ⟨a', -, as', has, h⟩ := h
    obtain rfl := Except.ok.inj h
    rw [List.length_cons, List.length_cons, ih has]

/-! ## The same tree -/

theorem sameAll_rebindAll {arguments es : List Expr}
    (h : ∀ a ∈ arguments, ∀ a', a.rebind resolve = .ok a' → a.same a' = true)
    (hr : rebindAll resolve arguments = .ok es) : sameAll arguments es = true := by
  induction arguments generalizing es with
  | nil =>
    obtain rfl := Except.ok.inj hr
    rfl
  | cons a as ih =>
    obtain ⟨ha, has⟩ := List.forall_mem_cons.1 h
    simp only [rebindAll, Except.bind_eq_ok] at hr
    obtain ⟨a', hra, as', hras, hr⟩ := hr
    obtain rfl := Except.ok.inj hr
    rw [sameAll, ha a' hra, ih has hras]
    rfl

/-- An expression does not change but for its methods. -/
theorem same_rebind (h : e.All IsSelfSame) (hr : e.rebind resolve = .ok e') :
    e.same e' = true := by
  induction e using Expr.induction generalizing e' with
  | step e ih =>
    have inside : ∀ c ∈ e.children, ∀ c', c.rebind resolve = .ok c' → c.same c' = true :=
      fun c hc c' => ih c hc (h.inside hc)
    cases e with
    | call name arguments method =>
      simp only [rebind, Except.bind_eq_ok] at hr
      obtain ⟨es, hes, hr⟩ := hr
      obtain ⟨method', -, rfl⟩ := Parser.bind_eq_ok.1 hr
      rw [same, beq_self_eq_true, Bool.true_and]
      exact sameAll_rebindAll inside hes
    | not a =>
      simp only [rebind, Except.bind_eq_ok] at hr
      obtain ⟨a', ha, hr⟩ := hr
      obtain rfl := Except.ok.inj hr
      exact inside a (by simp [children]) a' ha
    | and a b | or a b | relation r a b =>
      simp only [rebind, Except.bind_eq_ok] at hr
      obtain ⟨a', ha, b', hb, hr⟩ := hr
      obtain rfl := Except.ok.inj hr
      simp [same, inside a (by simp [children]) a' ha, inside b (by simp [children]) b' hb]
    | _ =>
      obtain rfl := Except.ok.inj hr
      exact same_self h

/-! ## The first call without a method -/

/-- An answer is good only if there is a method for every call, and else it is the error of the
first call without one. -/
def Reports (resolve : Resolver) (calls : List Call) {α : Type} : Except ParseError α → Prop
  | .ok _ => ∀ c ∈ calls, c.IsFound resolve
  | .error error => ∃ i c, FailsFirst (Call.IsFound resolve) calls i c ∧ c.FailsWith resolve error

theorem reports_ok {α : Type} (a : α) : Reports resolve [] (.ok a : Except ParseError α) :=
  List.forall_mem_nil _

/-- The calls of the second step come after those of the first one. -/
theorem Reports.bind {α β : Type} {cs ds : List Call} {x : Except ParseError α}
    {f : α → Except ParseError β} (hx : Reports resolve cs x)
    (hf : ∀ a, x = .ok a → Reports resolve ds (f a)) : Reports resolve (cs ++ ds) (x >>= f) := by
  cases x with
  | error error =>
    obtain ⟨i, c, hfirst, herror⟩ := hx
    exact ⟨i, c, hfirst.append_right ds, herror⟩
  | ok a =>
    have hlater := hf a rfl
    rw [Except.ok_bind]
    cases hfa : f a with
    | error error =>
      rw [hfa] at hlater
      obtain ⟨i, c, hfirst, herror⟩ := hlater
      exact ⟨_, c, hfirst.append hx, herror⟩
    | ok b =>
      rw [hfa] at hlater
      exact List.forall_mem_append.2 ⟨hx, hlater⟩

/-- A last step that asks for no method. -/
theorem Reports.map {α β : Type} {cs : List Call} {x : Except ParseError α} {f : α → β}
    (hx : Reports resolve cs x) : Reports resolve cs (x >>= fun a => .ok (f a)) := by
  rw [← List.append_nil cs]
  exact hx.bind fun a _ => reports_ok (f a)

theorem reports_bind {name : String} {arguments es : List Expr} {method : Method}
    (h : es.length = arguments.length) :
    Reports resolve [⟨name, arguments, method⟩] (Parser.bind resolve name es) := by
  cases hb : Parser.bind resolve name es with
  | error error =>
    obtain ⟨cause, hcause, rfl⟩ := Parser.bind_eq_error.1 hb
    rw [h] at hcause
    have hfails : Call.FailsWith resolve ⟨name, arguments, method⟩ (.unresolved name cause) :=
      ⟨cause, hcause, rfl⟩
    exact ⟨0, _, (failsFirst_cons_of_not hfails.not_isFound).2 ⟨rfl, rfl⟩, hfails⟩
  | ok e =>
    obtain ⟨method', hmethod, -⟩ := Parser.bind_eq_ok.1 hb
    rw [h] at hmethod
    exact List.forall_mem_singleton.2 ⟨method', hmethod⟩

theorem reports_rebindAll {arguments : List Expr}
    (h : ∀ a ∈ arguments, Reports resolve a.calls (a.rebind resolve)) :
    Reports resolve (callsAll arguments) (rebindAll resolve arguments) := by
  induction arguments with
  | nil => exact reports_ok []
  | cons a as ih =>
    obtain ⟨ha, has⟩ := List.forall_mem_cons.1 h
    exact ha.bind fun a' _ => (ih has).map

/-- **Binding anew stops at the first call that has no method, and nowhere else.** -/
theorem reports_rebind (resolve : Resolver) (e : Expr) :
    Reports resolve e.calls (e.rebind resolve) := by
  induction e using Expr.induction with
  | step e ih =>
    cases e with
    | call name arguments method =>
      exact (reports_rebindAll ih).bind fun es hes => reports_bind (length_rebindAll hes)
    | not a => exact (ih a (by simp [children])).map
    | and a b | or a b | relation r a b =>
      have ha := ih a (by simp [children])
      have hb := ih b (by simp [children])
      exact ha.bind fun a' _ => hb.map
    | _ => exact reports_ok _

end Expr

/-! ## Parsing is binding anew -/

namespace Parser

variable {env : Surroundings} {production : Production} {ws r : List Word}

/-- Words derive an expression, or the parser fails on them. -/
def Yields (env : Surroundings) (production : Production) (ws : List Word) :
    Except ParseError Expr → Prop
  | .ok e => Derives env production ws e
  | .error error => Fails env production ws error

theorem Yields.bind {outer : Production} {x : Except ParseError Expr}
    {f : Expr → Except ParseError Expr} (h : Yields env production ws x)
    (herror : ∀ error, Fails env production ws error → Fails env outer r error)
    (hok : ∀ e, Derives env production ws e → Yields env outer r (f e)) :
    Yields env outer r (x >>= f) := by
  cases x with
  | error error => exact herror error h
  | ok e => exact hok e h

/-- The same answer of another production, for more words. -/
theorem Yields.imp {outer : Production} {x : Except ParseError Expr}
    (h : Yields env production ws x)
    (herror : ∀ error, Fails env production ws error → Fails env outer r error)
    (hok : ∀ e, Derives env production ws e → Derives env outer r e) : Yields env outer r x := by
  cases x with
  | error error => exact herror error h
  | ok e => exact hok e h

/-- The same for arguments. -/
def YieldAll (env : Surroundings) (pieces : List (List Word)) (ws : List Word) :
    Except ParseError (List Expr) → Prop
  | .ok es => ∃ arguments : List (List Word × Expr), arguments.map Prod.fst = pieces ∧
      arguments.map Prod.snd = es ∧ ∀ p ∈ arguments, Derives env .or p.1 p.2
  | .error error => ArgumentsFail env ws error

section

variable {piece rest : List Word} {pieces : List (List Word)} {x : Except ParseError Expr}

theorem Yields.last (h : Yields env .or piece x)
    (hstarts : ∃ w rest, piece = w :: rest ∧ w.kind.Starts) :
    YieldAll env [piece] piece (x >>= fun e => .ok [e]) := by
  obtain ⟨w, piece', rfl, hw⟩ := hstarts
  cases x with
  | error error => exact arguments_fail_first hw h
  | ok e => exact ⟨[(w :: piece', e)], rfl, rfl, List.forall_mem_singleton.2 h⟩

theorem Yields.more {comma : Word} {y : Except ParseError (List Expr)} (h : Yields env .or piece x)
    (hstarts : ∃ w rest, piece = w :: rest ∧ w.kind.Starts) (hk : comma.kind = .comma)
    (hmore : YieldAll env pieces rest y) :
    YieldAll env (piece :: pieces) (piece ++ comma :: rest)
      (x >>= fun e => y >>= fun es => .ok (e :: es)) := by
  obtain ⟨w, piece', rfl, hw⟩ := hstarts
  cases x with
  | error error => exact (arguments_fail_first hw h).append (comma :: rest)
  | ok e =>
    cases y with
    | error error => exact arguments_fail_later h hk hmore
    | ok es =>
      obtain ⟨arguments, rfl, rfl, hall⟩ := hmore
      exact ⟨(w :: piece', e) :: arguments, rfl, rfl, List.forall_mem_cons.2 ⟨h, hall⟩⟩

theorem YieldAll.call {name opening closing : Word} {y : Except ParseError (List Expr)}
    (h : YieldAll env pieces ws y) (hs : Separated pieces ws) (hn : name.kind = .keyword)
    (hr : ∀ reserved ∈ reservedWords, ¬name.Says reserved) (ho : opening.kind = .leftParen)
    (hk : closing.kind = .rightParen) :
    Yields env .operand (name :: opening :: (ws ++ [closing]))
      (y >>= Parser.bind env.resolve (String.ofList name.text)) := by
  cases y with
  | error error => exact call_fails_arguments hn hr ho (h.append [closing])
  | ok es =>
    obtain ⟨arguments, rfl, rfl, hd⟩ := h
    rw [Except.ok_bind]
    cases hb : Parser.bind env.resolve (String.ofList name.text) (arguments.map Prod.snd) with
    | error error => exact call_fails_bind hn hr ho hs hd hk hb
    | ok e =>
      obtain ⟨method, hm, rfl⟩ := bind_eq_ok.1 hb
      rw [List.length_map] at hm
      exact Derives.call hn hr ho hs hd hk hm

end

theorem yieldAll_rebindAll {resolve : Resolver} {arguments : List (List Word × Expr)}
    (hs : Separated (arguments.map Prod.fst) ws)
    (hstarts : ∀ p ∈ arguments, ∃ w rest, p.1 = w :: rest ∧ w.kind.Starts)
    (h : ∀ p ∈ arguments, Yields env .or p.1 (p.2.rebind resolve)) :
    YieldAll env (arguments.map Prod.fst) ws
      (Expr.rebindAll resolve (arguments.map Prod.snd)) := by
  induction arguments generalizing ws with
  | nil => exact ⟨[], rfl, rfl, List.forall_mem_nil _⟩
  | cons p arguments ih =>
    obtain ⟨hfirst, hothers⟩ := List.forall_mem_cons.1 hstarts
    obtain ⟨hp, hps⟩ := List.forall_mem_cons.1 h
    rw [List.map_cons] at hs
    generalize hpieces : arguments.map Prod.fst = pieces at hs
    cases hs with
    | last =>
      obtain rfl : arguments = [] := List.map_eq_nil_iff.1 hpieces
      exact hp.last hfirst
    | more hcomma hsep => exact hp.more hfirst hcomma (ih (hpieces ▸ hsep) hothers hps)

/-- **Words that derive an expression with one resolver derive, with another one, the expression
bound anew**, or the parser fails on them as the binding does. -/
theorem yields_rebind {e : Expr} (h : Derives env production ws e) (resolve : Resolver) :
    Yields ⟨resolve, env.compile⟩ production ws (e.rebind resolve) := by
  induction h with
  | orFirst _ ih => exact ih.imp (fun _ h => h.or) fun _ => .orFirst
  | andFirst _ ih => exact ih.imp (fun _ h => h.and) fun _ => .andFirst
  | notNone hd hw ih =>
    obtain ⟨w, rest, rfl, -⟩ := hd.starts
    exact ih.imp (fun _ h => h.not (List.cons_ne_nil _ _) hw) fun _ h => .notNone h hw
  | relationOne _ ih => exact ih.imp (fun _ h => h.relation) fun _ => .relationOne
  | @orMore sign l r _ _ _ hs _ ihl ihr =>
    refine ihl.bind (fun _ h => h.append (sign :: r)) fun a ha => ?_
    exact ihr.bind (fun _ h => or_fails (completes ha) hs h) fun b hb => .orMore ha hs hb
  | @andMore sign l r _ _ _ hs _ ihl ihr =>
    refine ihl.bind (fun _ h => h.append (sign :: r)) fun a ha => ?_
    exact ihr.bind (fun _ h => and_fails (completes ha) hs h) fun b hb => .andMore ha hs hb
  | @relation sign l r _ _ _ _ hs _ ihl ihr =>
    refine ihl.bind (fun _ h => (h.append (sign :: r)).relation) fun a ha => ?_
    exact ihr.bind (fun _ h => relation_fails (completes ha) hs h) fun b hb => .relation ha hs hb
  | not hs _ ih => exact ih.bind (fun _ h => not_fails hs h) fun a ha => .not hs ha
  | @parens _ closing _ _ ho _ hc ih =>
    exact ih.imp (fun _ h => parens_fails ho (h.append [closing])) fun _ h => .parens ho h hc
  | number hw hv => exact Derives.number hw hv
  | negative hm hw hv => exact Derives.negative hm hw hv
  | string hw hq hc =>
    cases hc with
    | constant hl hf => exact Derives.string hw hq (.constant hl hf)
    | varying hl hf => exact Derives.string hw hq (.varying hl hf)
  | word hw hmem =>
    have hsame : ∀ p ∈ fixedWords, p.2.rebind resolve = .ok p.2 := by
      simp [fixedWords, Expr.rebind]
    rw [hsame _ hmem]
    exact Derives.word hw hmem
  | level hw hd hn => exact Derives.level hw hd hn
  | call hn hr ho hs hd hc _ ih =>
    have hall := yieldAll_rebindAll hs (fun p hp => (hd p hp).starts) ih
    exact hall.call hs hn hr ho hc

end Parser

namespace Expr

variable {resolve : Resolver} {compile : LayoutCompiler} {text : String} {e : Expr}

/-- **To parse an accepted text with another resolver is to bind the calls of its tree anew.** -/
theorem parse_rebind (h : parse ⟨resolve, compile⟩ text = .ok e) (resolve' : Resolver) :
    parse ⟨resolve', compile⟩ text = e.rebind resolve' := by
  obtain ⟨hc, hd⟩ := derives_of_parse h
  have hyields : Parser.Yields ⟨resolve', compile⟩ .or (Tokens.ofText text).words _ :=
    Parser.yields_rebind hd resolve'
  cases hx : e.rebind resolve' with
  | error error =>
    rw [hx] at hyields
    exact parse_of_fails hc hyields
  | ok e' =>
    rw [hx] at hyields
    exact parse_of_derives hc hyields

/-- **A text that is accepted with one resolver is accepted with every other one that has a method
for each of its calls, and with the same tree.** If there are calls for which the other one has
none, the error is that of the first of them whose parenthesis closes. -/
theorem parse_other_resolver (h : parse ⟨resolve, compile⟩ text = .ok e) (resolve' : Resolver) :
    CloseInOrder ⟨resolve, compile⟩ (Tokens.ofText text).words e.calls ∧
      ((∀ c ∈ e.calls, c.IsFound resolve') →
        ∃ e', parse ⟨resolve', compile⟩ text = .ok e' ∧ e.same e' = true) ∧
      (¬(∀ c ∈ e.calls, c.IsFound resolve') →
        ∃ i c cause, FailsFirst (Call.IsFound resolve') e.calls i c ∧
          Refuses resolve' c.name c.arguments.length cause ∧
          parse ⟨resolve', compile⟩ text = .error (.unresolved c.name cause)) := by
  obtain ⟨-, hd⟩ := derives_of_parse h
  have hreports := reports_rebind resolve' e
  rw [parse_rebind h resolve']
  refine ⟨hd.closeInOrder, ?_, ?_⟩
  · intro hfound
    cases hx : e.rebind resolve' with
    | error error =>
      rw [hx] at hreports
      obtain ⟨i, c, hfirst, -⟩ := hreports
      exact absurd (hfound c (List.mem_of_getElem? hfirst.get_eq)) hfirst.fails
    | ok e' => exact ⟨e', rfl, same_rebind hd.isSelfSame hx⟩
  · intro hnot
    cases hx : e.rebind resolve' with
    | error error =>
      rw [hx] at hreports
      obtain ⟨i, c, hfirst, cause, hcause, rfl⟩ := hreports
      exact ⟨i, c, cause, hfirst, hcause, rfl⟩
    | ok e' =>
      rw [hx] at hreports
      exact absurd hreports hnot

end Expr

/-- The words of a call inside of another one. -/
def wordsOfLength : List Word :=
  [.keyword "length", .leftParen, .keyword "message", .rightParen]

/-- A call with a call as its first argument. -/
def lengthIsNull : Expr :=
  .call "equals" [.call "length" [.message] Method.length, .literal .null] Method.equals

theorem words_lengthIsNull :
    (Tokens.ofText "equals(length(message), null)").words =
      .keyword "equals" :: .leftParen ::
        (wordsOfLength ++ .comma :: [.keyword "null"] ++ [.rightParen]) := by decide +kernel

theorem parse_lengthIsNull :
    Expr.parse .standard "equals(length(message), null)" = .ok lengthIsNull := by
  have hcomplete : (Tokens.ofText "equals(length(message), null)").IsComplete := ⟨_, by cbv⟩
  have hword {name : String} {e : Expr} (h : (name, e) ∈ fixedWords)
      (hw : (Word.keyword name).Says name ∧ ¬(Word.keyword name).IsNot) :
      Derives .standard .or [.keyword name] e :=
    (Derives.word hw.1 h).or_of_operand (by rintro w ⟨⟩; exact hw.2)
  have hmessage := hword (show ("message", .message) ∈ _ by simp [fixedWords]) (by decide +kernel)
  have hnull := hword (show ("null", .literal .null) ∈ _ by simp [fixedWords]) (by decide +kernel)
  -- no name of a call is reserved, and the methods are found by evaluation
  have hreserved : ∀ name ∈ ["length", "equals"], ∀ reserved ∈ reservedWords,
      ¬(Word.keyword name).Says reserved := by decide +kernel
  have hone : Separated ([([Word.keyword "message"], Expr.message)].map Prod.fst)
      [.keyword "message"] := .last
  have hlength : Derives .standard .operand wordsOfLength
      (.call "length" [.message] Method.length) :=
    .call rfl (hreserved "length" (by simp)) rfl hone (List.forall_mem_singleton.2 hmessage) rfl rfl
  have hlength' := hlength.or_of_operand (by rintro w ⟨⟩; decide +kernel)
  have htwo : Separated ([(wordsOfLength, Expr.call "length" [.message] Method.length),
      ([.keyword "null"], Expr.literal .null)].map Prod.fst)
      (wordsOfLength ++ Word.comma :: [.keyword "null"]) := .more rfl .last
  have hequals : Derives .standard .operand (.keyword "equals" :: .leftParen ::
      (wordsOfLength ++ .comma :: [.keyword "null"] ++ [.rightParen])) lengthIsNull :=
    .call rfl (hreserved "equals" (by simp)) rfl htwo
      (List.forall_mem_cons.2 ⟨hlength', List.forall_mem_singleton.2 hnull⟩) rfl rfl
  refine Expr.parse_of_derives hcomplete ?_
  rw [words_lengthIsNull]
  exact hequals.or_of_operand (by rintro w ⟨⟩; decide +kernel)

/-- Without any method, `equals(length(message), null)` fails at the call inside, of which the
parenthesis closes first. -/
theorem Expr.parse_other_resolver_empty :
    Expr.parse .standard "equals(length(message), null)" = .ok lengthIsNull ∧
      Expr.parse ⟨Registry.empty.resolve, Template.compile⟩ "equals(length(message), null)" =
        .error (.unresolved "length" (.unknownMethod "length")) := by
  refine ⟨parse_lengthIsNull, ?_⟩
  have hnone : ∀ c, ¬Call.IsFound Registry.empty.resolve c := by
    rintro c ⟨method, hmethod⟩
    exact absurd (Except.ok.inj hmethod) (by simp)
  have hcall : (⟨"length", [.message], Method.length⟩ : Call) ∈ lengthIsNull.calls :=
    List.mem_cons_self
  obtain ⟨-, -, hfails⟩ :=
    Expr.parse_other_resolver parse_lengthIsNull Registry.empty.resolve
  obtain ⟨i, c, cause, hfirst, hcause, herror⟩ := hfails fun hfound => hnone _ (hfound _ hcall)
  obtain ⟨-, rfl⟩ := (failsFirst_cons_of_not (hnone _)).1 hfirst
  rcases hcause with hcause | ⟨-, rfl⟩
  · exact absurd hcause (by simp [Registry.resolve, Registry.empty, Registry.lookup?])
  · exact herror

end LogFilter
