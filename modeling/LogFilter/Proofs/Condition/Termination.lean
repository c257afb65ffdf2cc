import LogFilter.Proofs.Condition.MachineAnswers
import LogFilter.Proofs.Condition.Reproduction

/-!
# Parsing ends

A routine calls other routines, and in the end itself, without going past a token first, and the
rounds of a loop have no bound. That the machine answers is an argument about costs. A step costs
one. A routine has `Routine.cost` to spend when it is called and gets the `price` of a token when it
goes past one, and a caller pays what it calls. Every routine can pay its steps and calls with that,
`Routine.program_isPaid`, so what the machine can still spend falls with every step.

What a call can spend is known when it is made: its cost, and the price of the tokens that are left.
The calls that wait for one another can spend less and less. Of two calls of the same production
this can only be because the later one has fewer tokens left, `Machine.pairwise_run`: no production
comes back to itself without going past a token.

* `Parser.parsing_ends`: every text has a tree or an error.
-/

namespace LogFilter

/-! ## What is left to read -/

namespace Tokenizer

/-- A number that falls when a token is read. -/
def IsFalling (left : Tokenizer → Nat) : Prop :=
  ∀ t t', t.IsReady → t.next = (.ok (), t') → left t' < left t

theorem isFalling_size : IsFalling fun t => t.tokens.size := by
  intro t t' _ h
  obtain ⟨_, htail⟩ := tail_of_next h
  obtain ⟨first, hfirst⟩ := Tokens.tail_eq_ok htail
  show t'.tokens.size < t.tokens.size
  rw [hfirst]
  exact Nat.lt_succ_self _

theorem isFalling_remaining : IsFalling fun t => t.remaining.length :=
  fun _ _ hready h => remaining_next hready h

end Tokenizer

namespace Parser

/-! ## Costs -/

/-- What a routine is a call of, whatever it carries. -/
inductive Production
  | or
  | moreOr
  | and
  | moreAnd
  | not
  | relation
  | operand
  | number
  | string
  | keyword
  | arguments
  deriving DecidableEq

@[simp]
def Routine.production : Routine → Production
  | or => .or
  | moreOr _ => .moreOr
  | and => .and
  | moreAnd _ => .moreAnd
  | not => .not
  | relation => .relation
  | operand => .operand
  | number _ => .number
  | string => .string
  | keyword => .keyword
  | arguments _ _ => .arguments

/-- The steps that a production can make before it goes past a token, with those of its calls. -/
@[simp]
def Production.cost : Production → Nat
  | number | string | moreAnd | moreOr => 2
  | keyword => 3
  | operand => 6
  | relation => 9
  | not => 12
  | and => 17
  | or => 22
  | arguments => 27

@[simp]
def Routine.cost (routine : Routine) : Nat := routine.production.cost

/-- What a token pays. The most expensive thing to come after one is a list of arguments. -/
@[simp]
def price : Nat := 28

/-- A program that can pay its steps and its calls, the tokens that it goes past paying too. -/
def Program.IsPaid : Nat → Program → Prop
  | b, answer _ | b, fail _ => 1 ≤ b
  | b, look next => 1 ≤ b ∧ ∀ t, (next t).IsPaid (b - 1)
  | b, advance next => 1 ≤ b ∧ next.IsPaid (b - 1 + price)
  | b, call routine next => routine.cost + 1 ≤ b ∧ ∀ e, (next e).IsPaid (b - (routine.cost + 1))

namespace Program

variable {b : Nat}

theorem IsPaid.pos {program : Program} (h : program.IsPaid b) : 0 < b := by
  cases program with
  | answer | fail => exact h
  | look | advance => exact h.1
  | call => exact Nat.lt_of_lt_of_le (Nat.succ_pos _) h.1

theorem isPaid_look {next : Token → Program} (hb : 1 ≤ b) (h : ∀ t, (next t).IsPaid (b - 1)) :
    (look next).IsPaid b := ⟨hb, h⟩

theorem isPaid_advance {next : Program} (hb : 1 ≤ b) (h : next.IsPaid (b - 1 + price)) :
    (advance next).IsPaid b := ⟨hb, h⟩

theorem isPaid_call {routine : Routine} {next : Expr → Program} (hb : routine.cost + 1 ≤ b)
    (h : ∀ e, (next e).IsPaid (b - (routine.cost + 1))) : (call routine next).IsPaid b := ⟨hb, h⟩

/-- A routine that is called for its answer. -/
theorem isPaid_call_answer {routine : Routine} (hb : routine.cost + 2 ≤ b) :
    (call routine .answer).IsPaid b := by
  refine isPaid_call (by omega) fun e => ?_
  show 1 ≤ b - (routine.cost + 1)
  omega

theorem isPaid_expect (kind : TokenKind) {next : Program} (hb : 2 ≤ b)
    (h : next.IsPaid (b - 1 - 1 + price)) : (expect kind next).IsPaid b := by
  refine isPaid_look (by omega) fun t => ?_
  split
  · exact isPaid_advance (by omega) h
  · show 1 ≤ b - 1
    omega

theorem isPaid_eatKeyword {next : String → Program} (hb : 2 ≤ b)
    (h : ∀ word, (next word).IsPaid (b - 1 - 1 + price)) : (eatKeyword next).IsPaid b := by
  refine isPaid_look (by omega) fun t => ?_
  split
  · exact isPaid_advance (by omega) (h t.text)
  · show 1 ≤ b - 1
    omega

theorem isPaid_ofResult (result : Except ParseError Expr) (hb : 1 ≤ b) :
    (ofResult result).IsPaid b := by
  cases result <;> exact hb

theorem isPaid_levelName (hb : 2 ≤ b) : levelName.IsPaid b := by
  refine isPaid_expect .dot hb (isPaid_eatKeyword (by simp) fun name => ?_)
  cases Level.ofName? name <;> exact Nat.le_add_left _ _

theorem isPaid_close (env : Surroundings) (name : String) (arguments : List Expr) (hb : 2 ≤ b) :
    (close env name arguments).IsPaid b :=
  isPaid_expect .rightParen hb (isPaid_ofResult _ (Nat.le_add_left _ _))

end Program

namespace Routine

open Parser.Program

variable (env : Surroundings)

/-- A loop ends, or it goes past its operator, which pays an operand and the next round. -/
theorem isPaid_loop (inner : Routine) (more : Expr → Routine) {join : Expr → Expr → Expr}
    {goesOn : Token → Prop} [DecidablePred goesOn] (hcost : inner.cost + 5 ≤ price)
    (hmore : ∀ e, (more e).cost = 2) (left : Expr) :
    (Program.look fun t => if goesOn t then
      .advance (.call inner fun right => .call (more (join left right)) .answer)
      else .answer left).IsPaid 2 := by
  refine isPaid_look (by decide) fun t => ?_
  split
  · refine isPaid_advance (Nat.le_refl 1) (isPaid_call (by omega) fun right => ?_)
    exact isPaid_call_answer (by rw [hmore]; omega)
  · exact Nat.le_refl 1

theorem isPaid_operand : (Routine.operand.program env).IsPaid Routine.operand.cost := by
  refine isPaid_look (by simp) fun t => ?_
  split
  · refine isPaid_advance (by simp) (isPaid_call (by simp) fun inner => ?_)
    exact isPaid_expect _ (by simp) (by simp [IsPaid])
  · refine isPaid_advance (by simp) (isPaid_look (by simp) fun digits => ?_)
    split
    · exact isPaid_call_answer (by simp)
    · simp [IsPaid]
  · exact isPaid_call_answer (by simp)
  · exact isPaid_call_answer (by simp)
  · exact isPaid_call_answer (by simp)
  · simp [IsPaid]

theorem isPaid_keyword : (Routine.keyword.program env).IsPaid Routine.keyword.cost := by
  refine isPaid_look (by simp) fun t => isPaid_eatKeyword (by simp) fun word => ?_
  split
  · simp [IsPaid]
  split
  · exact isPaid_levelName (by simp)
  refine isPaid_look (by simp) fun opening => ?_
  split
  · exact isPaid_advance (by simp) (isPaid_call_answer (by simp))
  · simp [IsPaid]

theorem isPaid_arguments (name : String) (before : List Expr) :
    ((Routine.arguments name before).program env).IsPaid (Routine.arguments name before).cost := by
  refine isPaid_look (by simp) fun t => ?_
  split
  · exact isPaid_close env name before (by simp)
  refine isPaid_call (by simp) fun argument => isPaid_look (by simp) fun comma => ?_
  split
  · exact isPaid_advance (by simp) (isPaid_call_answer (by simp))
  · exact isPaid_close env name _ (by simp)

/-- **Every routine can pay** its steps and calls. -/
theorem program_isPaid (routine : Routine) : (routine.program env).IsPaid routine.cost := by
  cases routine with
  | or => exact isPaid_call (by simp) fun _ => isPaid_call_answer (by simp)
  | moreOr left => exact isPaid_loop .and .moreOr (by simp) (fun _ => rfl) left
  | and => exact isPaid_call (by simp) fun _ => isPaid_call_answer (by simp)
  | moreAnd left => exact isPaid_loop .not .moreAnd (by simp) (fun _ => rfl) left
  | not =>
    refine isPaid_look (by simp) fun t => ?_
    split
    · refine isPaid_advance (by simp) (isPaid_call (by simp) fun inner => ?_)
      simp [IsPaid]
    · exact isPaid_call_answer (by simp)
  | relation =>
    refine isPaid_call (by simp) fun left => isPaid_look (by simp) fun t => ?_
    split
    · simp [IsPaid]
    · refine isPaid_advance (by simp) (isPaid_call (by simp) fun right => ?_)
      simp [IsPaid]
  | operand => exact isPaid_operand env
  | number negative =>
    exact isPaid_look (by simp) fun t => isPaid_advance (by simp) (isPaid_ofResult _ (by simp))
  | string =>
    exact isPaid_look (by simp) fun t => isPaid_advance (by simp) (isPaid_ofResult _ (by simp))
  | keyword => exact isPaid_keyword env
  | arguments name before => exact isPaid_arguments env name before

end Routine

/-! ## What waiting calls can spend -/

variable {left : Tokenizer → Nat} {env : Surroundings} {m m' : Machine} {n : Nat}

/-- What a call can spend when it is made: its cost, and the price of what is left to read. -/
def Call.worth (left : Tokenizer → Nat) (c : Call) : Nat :=
  c.routine.cost + price * left c.entered

/-- Calls that can pay what they do with their answers, of which the last one has `funds` left and
its callers have kept `savings`. To make a call, a caller had what it paid for it and what it kept.
-/
inductive AreFunded (left : Tokenizer → Nat) : Nat → Nat → List Call → Prop
  | nil {funds : Nat} : AreFunded left funds 0 []
  | cons {funds kept savings : Nat} {c : Call} {calls : List Call} (spends : funds ≤ c.worth left)
      (isPaid : ∀ e, (c.next e).IsPaid kept)
      (callers : AreFunded left (c.worth left + 1 + kept) savings calls) :
      AreFunded left funds (kept + savings) (c :: calls)

theorem AreFunded.mono {funds funds' savings : Nat} {calls : List Call}
    (h : AreFunded left funds savings calls) (hle : funds' ≤ funds) :
    AreFunded left funds' savings calls := by
  cases h with
  | nil => exact .nil
  | cons spends isPaid callers => exact .cons (hle.trans spends) isPaid callers

theorem AreFunded.le_worth {funds savings : Nat} {calls : List Call}
    (h : AreFunded left funds savings calls) : ∀ c ∈ calls, funds ≤ c.worth left := by
  induction h with
  | nil => exact fun c hc => absurd hc (List.not_mem_nil)
  | cons spends isPaid callers ih =>
    intro c hc
    rcases List.mem_cons.1 hc with rfl | hc
    · exact spends
    · have := ih c hc
      omega

/-- A call can spend less than those that wait for it. -/
theorem AreFunded.pairwise {funds savings : Nat} {calls : List Call}
    (h : AreFunded left funds savings calls) :
    calls.Pairwise fun inner outer => inner.worth left < outer.worth left := by
  induction h with
  | nil => exact .nil
  | cons spends isPaid callers ih =>
    refine .cons (fun c hc => ?_) ih
    have := callers.le_worth c hc
    omega

namespace Machine

/-- A machine that has no more than `n` to spend on its steps. -/
inductive IsFunded (left : Tokenizer → Nat) (n : Nat) : Machine → Prop
  | mk {program : Program} {calls : List Call} {t : Tokenizer} {b savings : Nat}
      (isReady : t.IsReady) (isPaid : program.IsPaid b)
      (callers : AreFunded left (b + price * left t) savings calls)
      (total : b + price * left t + savings ≤ n) : IsFunded left n ⟨program, calls, t⟩

theorem isFunded_start {t : Tokenizer} (h : t.IsReady) :
    (start t).IsFunded left (24 + price * left t) :=
  .mk h (Program.isPaid_call_answer (by simp)) .nil (Nat.le_refl _)

theorem IsFunded.pos (h : m.IsFunded left n) : 0 < n := by
  obtain ⟨_, hpaid, _, htotal⟩ := h
  have := hpaid.pos
  omega

/-- **A step costs one.** -/
theorem IsFunded.goes (hleft : Tokenizer.IsFalling left) (h : m.IsFunded left n)
    (hgoes : Goes env m m') : m'.IsFunded left (n - 1) := by
  obtain @⟨_, _, t, b, savings, hready, hpaid, hcalls, htotal⟩ := h
  have hb := hpaid.pos
  cases hgoes with
  | answer =>
    -- what the call did not spend is lost
    obtain _ | ⟨hspends, hnext, hcallers⟩ := hcalls
    exact .mk hready (hnext _) (hcallers.mono (by omega)) (by omega)
  | look =>
    obtain ⟨_, hnext⟩ := hpaid
    exact .mk hready (hnext _) (hcalls.mono (by omega)) (by omega)
  | @advance _ _ _ t' read =>
    -- the token that is gone pays
    have hpays : price * (left t' + 1) ≤ price * left t :=
      Nat.mul_le_mul_left price (hleft t t' hready read)
    rw [Nat.mul_add, Nat.mul_one] at hpays
    obtain ⟨_, hnext⟩ := hpaid
    exact .mk (Tokenizer.tail_of_next read).1 hnext (hcalls.mono (by omega)) (by omega)
  | @call routine next =>
    obtain ⟨hcost, hnext⟩ := hpaid
    have hcaller : AreFunded left (routine.cost + price * left t + 1 + (b - (routine.cost + 1)))
        savings _ := hcalls.mono (by omega)
    exact .mk hready (routine.program_isPaid env) (.cons (Nat.le_refl _) hnext hcaller) (by omega)

/-- The machine answers before it has nothing to spend. -/
theorem IsFunded.exists_run (hleft : Tokenizer.IsFalling left) (h : m.IsFunded left n) :
    ∃ k answer, k ≤ n ∧ m.run env k = .done answer := by
  induction n generalizing m with
  | zero => exact absurd h.pos (Nat.lt_irrefl 0)
  | succ n ih =>
    cases hstep : m.step env with
    | going m' =>
      obtain ⟨k, answer, hk, hrun⟩ := ih (h.goes hleft (goes_of_step hstep))
      refine ⟨k + 1, answer, Nat.succ_le_succ hk, ?_⟩
      rw [run, hstep]
      exact hrun
    | done answer =>
      refine ⟨1, answer, Nat.le_add_left 1 n, ?_⟩
      rw [run, hstep]

/-- **A production does not come back to itself before a token was read.** -/
theorem pairwise_run (hleft : Tokenizer.IsFalling left) {t : Tokenizer} (ht : t.IsReady)
    (hrun : (start t).run env n = .going m) :
    m.calls.Pairwise fun inner outer =>
      inner.routine.production = outer.routine.production →
        left inner.entered < left outer.entered := by
  have hstep : ∀ m m', Goes env m m' → (∃ k, m.IsFunded left k) → ∃ k, m'.IsFunded left k := by
    rintro m m' hgoes ⟨k, h⟩
    exact ⟨k - 1, h.goes hleft hgoes⟩
  obtain ⟨_, hfunded⟩ := run_keeps hstep ⟨_, isFunded_start ht⟩ hrun
  obtain ⟨_, _, hcalls, _⟩ := hfunded
  refine hcalls.pairwise.imp fun hworth hsame => ?_
  rw [Call.worth, Call.worth, Routine.cost, Routine.cost, hsame] at hworth
  exact Nat.lt_of_mul_lt_mul_left (Nat.lt_of_add_lt_add_left hworth)

end Machine

/-- **Parsing ends, with a tree or an error.** If the text has a first token, the machine answers
within a number of steps that grows with the number of tokens, and its answer is that of the parser.
Whenever it has two calls of one production, which includes two rounds of a loop, tokens were read
between them, and what is left of the text is shorter at the inner one. -/
theorem parsing_ends (env : Surroundings) (text : String) :
    (∃ error, Tokenizer.ofText text = .error error ∧
      Expr.parseEmbedded env text = .error error ∧ Expr.parse env text = .error error) ∨
    ∃ t, Tokenizer.ofText text = .ok t ∧
      (∃ n answer, n ≤ 24 + price * (Tokens.ofText text).size ∧
        (Machine.start t).run env n = .done answer ∧
        Expr.parseEmbedded env text = answer >>= conclude ∧
        Expr.parse env text = (answer >>= conclude).map Prod.fst) ∧
      ∀ n m, (Machine.start t).run env n = .going m →
        m.calls.Pairwise fun inner outer =>
          inner.routine.production = outer.routine.production →
            inner.entered.tokens.size < outer.entered.tokens.size ∧
              inner.entered.remaining.length < outer.entered.remaining.length := by
  rcases Tokenizer.ofText_tokens text with ⟨t, ht, hready, htokens⟩ | ⟨fault, position, ht, _⟩
  · refine .inr ⟨t, ht, ?_, fun n m hrun => ?_⟩
    · obtain ⟨n, answer, hn, hrun⟩ :=
        (Machine.isFunded_start hready).exists_run Tokenizer.isFalling_size
      have hanswer := Machine.parseEmbedded_eq_of_run ht hrun
      refine ⟨n, answer, ?_, hrun, hanswer, ?_⟩
      · rw [← htokens]
        exact hn
      · rw [Expr.parse_eq_map, hanswer]
    · have htokens := Machine.pairwise_run Tokenizer.isFalling_size hready hrun
      have hlength := Machine.pairwise_run Tokenizer.isFalling_remaining hready hrun
      exact (htokens.and hlength).imp fun h hsame => ⟨h.1 hsame, h.2 hsame⟩
  · have hembedded : Expr.parseEmbedded env text = .error (.lexical fault position) :=
      parseEmbedded_eq_of_ofText ht
    refine .inl ⟨_, ht, hembedded, ?_⟩
    rw [Expr.parse_eq_map, hembedded]
    rfl

/-- In `((` the second parenthesis is read by other calls of the same productions. After nine steps
six calls wait, of which the last one was made at the second parenthesis. -/
theorem parsing_ends_nested :
    ∃ t m, Tokenizer.ofText "((" = .ok t ∧ (Machine.start t).run .standard 9 = .going m ∧
      m.calls.map (fun c => (c.routine.production, c.entered.remaining)) =
        [(.or, ['(']), (.operand, ['(', '(']), (.relation, ['(', '(']), (.not, ['(', '(']),
          (.and, ['(', '(']), (.or, ['(', '('])] ∧
      m.calls.Pairwise fun inner outer =>
        inner.routine.production = outer.routine.production →
          inner.entered.tokens.size < outer.entered.tokens.size ∧
            inner.entered.remaining.length < outer.entered.remaining.length := by
  have htext : Tokenizer.ofText "((" = .ok ⟨⟨.leftParen, "(", 0⟩, ['('], 1⟩ := rfl
  rcases parsing_ends .standard "((" with ⟨error, herror, _⟩ | ⟨t, ht, _, hpairwise⟩
  · exact absurd (htext.symm.trans herror) (by simp)
  · obtain rfl := Except.ok.inj (htext.symm.trans ht)
    exact ⟨_, _, htext, rfl, by decide +kernel, hpairwise 9 _ rfl⟩

end Parser

end LogFilter
