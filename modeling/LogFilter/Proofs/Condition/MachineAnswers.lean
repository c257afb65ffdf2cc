import LogFilter.Proofs.Condition.Embedding
import LogFilter.Proofs.Condition.Machine

/-!
# What the machine answers

The answer of the machine, if it gives one, is that of the parser. For this, every program has a
meaning: what it answers if its calls are answered by the functions of the parser. The program of a
routine means what the function does, `Routine.program_meaning`, which is one equation for each
function. So no step of the machine changes what its programs and waiting calls mean together,
`Machine.step_meaning`, and what is left when it has answered is the answer.

* `Machine.parseEmbedded_eq_of_run`: the answer of the machine to a text is that of the parser.
-/

namespace LogFilter.Parser

/-! ## What the parser answers -/

/-- The answer of the parser to what a routine is asked for. -/
def Routine.meaning (env : Surroundings) (ts : Tokens) :
    Routine → Except ParseError (Expr × Tokens)
  | or => Parser.answer (parseOr env ts)
  | moreOr left => Parser.answer (Parser.moreOr env left ts)
  | and => Parser.answer (parseAnd env ts)
  | moreAnd left => Parser.answer (Parser.moreAnd env left ts)
  | not => Parser.answer (parseNot env ts)
  | relation => Parser.answer (parseRelation env ts)
  | operand => Parser.answer (parseOperand env ts)
  | number negative => Parser.answer (parseNumber negative ts)
  | string => Parser.answer (parseString env.compile ts)
  | keyword => do
    let t ← ts.head
    if t.kind = .keyword then ts.tail >>= keywordOperand env t
    else .error (.identifierExpected t.position)
  | arguments name before => do
    let p ← Parser.answer (parseArguments env ts)
    let r ← p.2.after .rightParen
    let e ← Parser.bind env.resolve name (before ++ p.1)
    .ok (e, r)

/-- The answer of a program if the parser answers its calls. -/
def Program.meaning (env : Surroundings) (ts : Tokens) :
    Program → Except ParseError (Expr × Tokens)
  | answer e => .ok (e, ts)
  | fail error => .error error
  | look next => ts.head >>= fun t => (next t).meaning env ts
  | advance next => ts.tail >>= fun r => next.meaning env r
  | call routine next => routine.meaning env ts >>= fun p => (next p.1).meaning env p.2

section

variable {env : Surroundings} {ts : Tokens} {t : Token}

/-- An operator is known by the first token, if there is one. -/
theorem startsWithOperator_of_head {sign : TokenKind} {name : String} (h : ts.head = .ok t)
    (hsign : sign ≠ .endOfInput) :
    (ts.startsWithWord name || ts.startsWith sign) = true ↔ t.word.IsOperator sign name := by
  rw [Tokens.startsWithOperator_iff]
  rcases head_eq_ok h with ⟨position, rfl, rfl⟩ | ⟨r, rfl⟩
  · refine iff_of_false Tokens.not_startsWith_finish ?_
    intro hop
    exact hop.kind_ne (by decide) hsign.symm rfl
  · exact Tokens.startsWith_token

theorem startsWith_of_head {kind : TokenKind} (h : ts.head = .ok t) (hkind : kind ≠ .endOfInput) :
    ts.startsWith kind = true ↔ t.kind = kind := by
  rw [Tokens.startsWith_iff]
  rcases head_eq_ok h with ⟨position, rfl, rfl⟩ | ⟨r, rfl⟩
  · exact iff_of_false Tokens.not_startsWith_finish fun h => hkind h.symm
  · exact Tokens.startsWith_token

/-- The tokens after another one start with a token. -/
theorem exists_head_of_tail {r : Tokens} (h : ts.tail = .ok r) : ∃ u, r.head = .ok u := by
  obtain ⟨t, rfl⟩ := Tokens.tail_eq_ok h
  cases r with
  | token u _ => exact ⟨u, rfl⟩
  | finish position => exact ⟨_, rfl⟩
  | failure => exact absurd h (by simp [Tokens.tail, Tokens.advance, Except.map])

namespace Program

theorem meaning_look (h : ts.head = .ok t) (next : Token → Program) :
    (look next).meaning env ts = (next t).meaning env ts := by
  rw [meaning, h, Except.ok_bind]

theorem bind_pair (x : Except ParseError (Expr × Tokens)) :
    (x >>= fun p => .ok (p.1, p.2)) = x := by
  cases x <;> rfl

/-- A routine that answers what another one answers. -/
theorem meaning_call_answer (routine : Routine) :
    (call routine .answer).meaning env ts = routine.meaning env ts :=
  bind_pair (routine.meaning env ts)

theorem meaning_expect (kind : TokenKind) (next : Program) :
    (expect kind next).meaning env ts = ts.after kind >>= fun r => next.meaning env r := by
  rw [expect, meaning, Tokens.after_eq]
  cases ts.head with
  | error => rfl
  | ok t =>
    rw [Except.ok_bind, Except.ok_bind]
    by_cases hk : t.kind = kind
    · rw [if_pos hk, if_pos hk, meaning]
    · rw [if_neg hk, if_neg hk]
      rfl

theorem meaning_eatKeyword (next : String → Program) :
    (eatKeyword next).meaning env ts = ts.keyword >>= fun p => (next p.1).meaning env p.2 := by
  rw [eatKeyword, meaning, Tokens.keyword_eq]
  cases ts.head with
  | error => rfl
  | ok t =>
    rw [Except.ok_bind, Except.ok_bind]
    by_cases hk : t.kind = .keyword
    · rw [if_pos hk, if_pos hk, meaning]
      cases ts.tail <;> rfl
    · rw [if_neg hk, if_neg hk]
      rfl

theorem meaning_ofResult (result : Except ParseError Expr) :
    (ofResult result).meaning env ts = result >>= fun e => .ok (e, ts) := by
  cases result <;> rfl

theorem meaning_close (name : String) (arguments : List Expr) :
    (close env name arguments).meaning env ts = ts.after .rightParen >>= fun r =>
      Parser.bind env.resolve name arguments >>= fun e => .ok (e, r) := by
  rw [close, meaning_expect]
  simp only [meaning_ofResult]

theorem meaning_levelName : levelName.meaning env ts = Parser.answer (parseLevel ts) := by
  rw [levelName, meaning_expect, answer_parseLevel]
  simp only [meaning_eatKeyword]
  cases ts.after .dot with
  | error => rfl
  | ok d =>
    rw [Except.ok_bind, Except.ok_bind]
    cases d.keyword with
    | error => rfl
    | ok p =>
      rw [Except.ok_bind, Except.ok_bind]
      cases Level.ofName? p.1 <;> rfl

end Program

namespace Routine

open Parser.Program

/-- A loop goes on at its operator and ends at every other token. -/
theorem program_meaning_loop (inner : Routine) (more : Expr → Routine) (join : Expr → Expr → Expr)
    {sign : TokenKind} {name : String} (hsign : sign ≠ .endOfInput)
    (hmore : ∀ left ts, (more left).meaning env ts =
      if ts.startsWithWord name || ts.startsWith sign then do
        let r ← ts.tail
        let p ← inner.meaning env r
        (more (join left p.1)).meaning env p.2
      else .ok (left, ts)) (h : ts.head = .ok t) (left : Expr) :
    Program.meaning env ts (.look fun t =>
        if t.word.IsOperator sign name then
          .advance (.call inner fun right => .call (more (join left right)) .answer)
        else .answer left) =
      (more left).meaning env ts := by
  rw [meaning_look h, hmore]
  by_cases hop : t.word.IsOperator sign name
  · rw [if_pos hop, if_pos ((startsWithOperator_of_head h hsign).2 hop)]
    simp only [Program.meaning, bind_pair]
  · rw [if_neg hop, if_neg fun hs => hop ((startsWithOperator_of_head h hsign).1 hs)]
    rfl

theorem program_meaning_not (h : ts.head = .ok t) :
    (Routine.not.program env).meaning env ts = Routine.not.meaning env ts := by
  rw [program, meaning_look h, Routine.meaning, answer_parseNot]
  by_cases hop : t.word.IsNot
  · rw [if_pos hop, if_pos ((startsWithOperator_of_head h (by decide)).2 hop)]
    rfl
  · rw [if_neg hop, if_neg fun hs => hop ((startsWithOperator_of_head h (by decide)).1 hs),
      meaning_call_answer]
    rfl

theorem program_meaning_relation :
    (Routine.relation.program env).meaning env ts = Routine.relation.meaning env ts := by
  rw [program, Program.meaning, Routine.meaning, Routine.meaning, answer_parseRelation]
  cases Parser.answer (parseOperand env ts) with
  | error => rfl
  | ok left =>
    rw [Except.ok_bind, Except.ok_bind, Program.meaning]
    cases left.2.head with
    | error => rfl
    | ok t =>
      rw [Except.ok_bind, Except.ok_bind]
      cases t.kind.relation? <;> rfl

theorem program_meaning_operand (h : ts.head = .ok t) :
    (Routine.operand.program env).meaning env ts = Routine.operand.meaning env ts := by
  rw [program, meaning_look h, Routine.meaning, answer_parseOperand, h, Except.ok_bind]
  cases hk : t.kind with
  | leftParen =>
    simp only [Program.meaning, meaning_expect]
    rfl
  | minus =>
    simp only [Program.meaning]
    cases ts.tail with
    | error => rfl
    | ok r =>
      rw [Except.ok_bind, Except.ok_bind]
      cases r.head with
      | error => rfl
      | ok digits =>
        rw [Except.ok_bind, Except.ok_bind]
        by_cases hd : digits.kind = .number
        · rw [if_pos hd, if_pos hd, meaning_call_answer]
          rfl
        · rw [if_neg hd, if_neg hd]
          rfl
  | number => exact meaning_call_answer _
  | string => exact meaning_call_answer _
  | keyword =>
    refine (meaning_call_answer _).trans ?_
    rw [Routine.meaning, h, Except.ok_bind, if_pos hk]
  | _ => rfl

theorem program_meaning_keyword (h : ts.head = .ok t) :
    (Routine.keyword.program env).meaning env ts = Routine.keyword.meaning env ts := by
  rw [program, meaning_look h, meaning_eatKeyword, Tokens.keyword_eq, h, Routine.meaning, h,
    Except.ok_bind, Except.ok_bind]
  by_cases hk : t.kind = .keyword
  · rw [if_pos hk, if_pos hk]
    cases hr : ts.tail with
    | error => rfl
    | ok r =>
      -- the parser has a token after the word
      obtain ⟨u, hu⟩ := exists_head_of_tail hr
      simp only [Except.map, Except.ok_bind, keywordOperand]
      cases fixedWord? (String.ofList (t.text.toList.map Char.toLower)) with
      | some e => rfl
      | none =>
        simp only
        split
        · exact meaning_levelName
        rw [meaning_look hu]
        by_cases ho : u.kind = .leftParen
        · rw [if_pos ho, if_pos ((startsWith_of_head hu (by decide)).2 ho), Program.meaning]
          simp only [meaning_call_answer]
          rfl
        · rw [if_neg ho, if_neg fun hs => ho ((startsWith_of_head hu (by decide)).1 hs)]
          rfl
  · rw [if_neg hk, if_neg hk]
    rfl

theorem program_meaning_arguments (h : ts.head = .ok t) (name : String) (before : List Expr) :
    ((Routine.arguments name before).program env).meaning env ts =
      (Routine.arguments name before).meaning env ts := by
  rw [program, meaning_look h, Routine.meaning, answer_parseArguments, h, Except.ok_bind]
  by_cases hend : t.kind = .endOfInput ∨ t.kind = .rightParen
  · rw [if_pos hend, if_pos hend, meaning_close, Except.ok_bind, List.append_nil]
  rw [if_neg hend, if_neg hend, Program.meaning]
  rw [show Routine.or.meaning env ts = Parser.answer (parseOr env ts) from rfl]
  cases Parser.answer (parseOr env ts) with
  | error => rfl
  | ok p =>
    simp only [Except.ok_bind]
    cases hhead : p.2.head with
    | error error =>
      -- without a token there is neither a comma nor a parenthesis
      have hcomma : p.2.startsWith .comma = false := by
        cases hp : p.2 with
        | failure => rfl
        | token | finish => exact absurd hhead (by simp [hp, Tokens.head])
      rw [Program.meaning, hhead, hcomma]
      simp only [Bool.false_eq_true, if_false, Except.ok_bind, Tokens.after_eq, hhead]
      rfl
    | ok comma =>
      rw [meaning_look hhead]
      by_cases hc : comma.kind = .comma
      · rw [if_pos hc, if_pos ((startsWith_of_head hhead (by decide)).2 hc), Program.meaning]
        simp only [meaning_call_answer, Routine.meaning]
        cases p.2.tail with
        | error => rfl
        | ok r =>
          simp only [Except.ok_bind]
          cases Parser.answer (parseArguments env r) with
          | error => rfl
          | ok q =>
            simp only [Except.ok_bind, List.append_assoc, List.singleton_append]
      · rw [if_neg hc, if_neg fun hs => hc ((startsWith_of_head hhead (by decide)).1 hs),
          meaning_close]
        rfl

/-- **The program of a routine does what the parser does.** -/
theorem program_meaning (routine : Routine) (h : ts.head = .ok t) :
    (routine.program env).meaning env ts = routine.meaning env ts := by
  cases routine with
  | or =>
    rw [program, Program.meaning]
    simp only [meaning_call_answer]
    exact (answer_parseOr env ts).symm
  | moreOr left =>
    exact program_meaning_loop .and .moreOr .or (by decide) (answer_moreOr env) h left
  | and =>
    rw [program, Program.meaning]
    simp only [meaning_call_answer]
    exact (answer_parseAnd env ts).symm
  | moreAnd left =>
    exact program_meaning_loop .not .moreAnd .and (by decide) (answer_moreAnd env) h left
  | not => exact program_meaning_not h
  | relation => exact program_meaning_relation
  | operand => exact program_meaning_operand h
  | number negative =>
    rw [program, meaning_look h, Program.meaning, Routine.meaning, answer_parseNumber, h]
    simp only [meaning_ofResult, Except.ok_bind]
  | string =>
    rw [program, meaning_look h, Program.meaning, Routine.meaning, answer_parseString, h]
    simp only [meaning_ofResult, Except.ok_bind]
  | keyword => exact program_meaning_keyword h
  | arguments name before => exact program_meaning_arguments h name before

end Routine

end

/-! ## What a machine answers -/

/-- What waiting calls make of an answer. -/
def resume (env : Surroundings) :
    List Call → Expr × Tokens → Except ParseError (Expr × Tokens)
  | [], p => .ok p
  | c :: calls, p => (c.next p.1).meaning env p.2 >>= resume env calls

/-- The answer of a machine if the parser answers its calls. -/
def Machine.meaning (env : Surroundings) (m : Machine) : Except ParseError (Expr × Tokens) :=
  m.program.meaning env m.tokenizer.tokens >>= resume env m.calls

namespace Progress

def meaning (env : Surroundings) : Progress → Except ParseError (Expr × Tokens)
  | going m => m.meaning env
  | done answer => answer.map fun p => (p.1, p.2.tokens)

/-- The tokenizer has a token. -/
def IsReady : Progress → Prop
  | going m => m.tokenizer.IsReady
  | done answer => ∀ p, answer = .ok p → p.2.IsReady

end Progress

namespace Machine

variable (env : Surroundings) {m : Machine}

/-- **A step does not change the answer.** -/
theorem step_meaning (h : m.tokenizer.IsReady) :
    (m.step env).meaning env = m.meaning env ∧ (m.step env).IsReady := by
  obtain ⟨program, calls, t⟩ := m
  cases program with
  | answer e =>
    cases calls with
    | nil => exact ⟨rfl, fun p hp => Except.ok.inj hp ▸ h⟩
    | cons c calls => exact ⟨rfl, h⟩
  | fail error => exact ⟨rfl, fun p hp => absurd hp (by simp)⟩
  | look next =>
    refine ⟨?_, h⟩
    rw [step, Progress.meaning, meaning, meaning, Program.meaning_look (Tokenizer.head_tokens h)]
  | advance next =>
    rw [step, meaning, Program.meaning]
    rcases t.next_tail with ⟨t', hnext, hready, htail⟩ | ⟨error, t', hnext, htail⟩
    · simp only [hnext, htail]
      exact ⟨rfl, hready⟩
    · simp only [hnext, htail]
      exact ⟨rfl, fun p hp => absurd hp (by simp)⟩
  | call routine next =>
    refine ⟨?_, h⟩
    rw [step, Progress.meaning, meaning, meaning, Program.meaning,
      routine.program_meaning (Tokenizer.head_tokens h)]
    cases routine.meaning env t.tokens <;> rfl

theorem run_meaning (n : Nat) (h : m.tokenizer.IsReady) :
    (m.run env n).meaning env = m.meaning env ∧ (m.run env n).IsReady := by
  induction n generalizing m with
  | zero => exact ⟨rfl, h⟩
  | succ n ih =>
    obtain ⟨hmeaning, hready⟩ := step_meaning env h
    rw [run]
    cases hstep : m.step env with
    | going m' =>
      rw [hstep] at hmeaning hready
      obtain ⟨hrest, hlast⟩ := ih hready
      exact ⟨hrest.trans hmeaning, hlast⟩
    | done answer =>
      rw [hstep] at hmeaning hready
      exact ⟨hmeaning, hready⟩

end Machine

/-- What an expression and the tokenizer after it come to: the condition has to end there. -/
def conclude (p : Expr × Tokenizer) : Except ParseError (Expr × Nat) :=
  if p.2.current.kind = .endOfInput then .ok (p.1, p.2.current.position)
  else .error (.unexpectedToken p.2.current.text p.2.current.position)

/-- **The machine answers as the parser does**, if it answers. -/
theorem Machine.parseEmbedded_eq_of_run {env : Surroundings} {text : String} {t : Tokenizer}
    {n : Nat} {answer : Except ParseError (Expr × Tokenizer)}
    (ht : Tokenizer.ofText text = .ok t) (h : (start t).run env n = .done answer) :
    Expr.parseEmbedded env text = answer >>= conclude := by
  obtain ⟨hready, htokens⟩ : t.IsReady ∧ t.tokens = Tokens.ofText text := by
    rcases Tokenizer.ofText_tokens text with ⟨t', ht', hready, htokens⟩ | ⟨_, _, herror, _⟩
    · obtain rfl : t' = t := Except.ok.inj (ht'.symm.trans ht)
      exact ⟨hready, htokens⟩
    · exact absurd (ht.symm.trans herror) (by simp)
  have hstart : (start t).meaning env = Parser.answer (parseOr env (Tokens.ofText text)) := by
    rw [start, meaning, Program.meaning_call_answer, htokens]
    exact Program.bind_pair _
  obtain ⟨hmeaning, hlast⟩ := run_meaning env (m := start t) n hready
  rw [h, hstart] at hmeaning
  rw [h] at hlast
  rw [Expr.parseEmbedded_eq, ← hmeaning]
  cases answer with
  | error error => rfl
  | ok p =>
    have hhead : p.2.tokens.head = .ok p.2.current := Tokenizer.head_tokens (hlast p rfl)
    show (p.2.tokens.head >>= fun u => _) = conclude p
    rw [hhead]
    rfl

/-- A text that does not start with a token is refused with the tokenizer's error. -/
theorem parseEmbedded_eq_of_ofText {env : Surroundings} {text : String} {error : ParseError}
    (h : Tokenizer.ofText text = .error error) : Expr.parseEmbedded env text = .error error := by
  rcases Tokenizer.ofText_tokens text with ⟨t, ht, _⟩ | ⟨fault, position, ht, htokens⟩
  · exact absurd (h.symm.trans ht) (by simp)
  obtain rfl : error = .lexical fault position := Except.error.inj (h.symm.trans ht)
  have hnot : ((Tokens.failure fault position).startsWithWord "not" ||
      (Tokens.failure fault position).startsWith .not) = false := rfl
  have hor : answer (parseOr env (.failure fault position)) =
      .error (.lexical fault position) := by
    rw [answer_parseOr, answer_parseAnd, answer_parseNot, hnot, answer_parseRelation,
      answer_parseOperand]
    rfl
  rw [Expr.parseEmbedded_eq, htokens, hor]
  rfl

end LogFilter.Parser
