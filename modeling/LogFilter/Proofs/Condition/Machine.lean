import LogFilter.Proofs.Condition.Grammar
import LogFilter.Proofs.Condition.Steps
import LogFilter.Proofs.Condition.Stepping

/-!
# The parser as a machine

The functions of the parser call each other, and Lean accepts them only with the proof that this
ends. They also work on tokens that were all made in advance. Here the parser is written a second
time, with neither: as routines that read one token after the other from a tokenizer, and a machine
that runs them.

A routine has a program. It looks at the current token, goes past it, and calls routines, also
itself; the rounds of a loop are calls that carry what was parsed before. The machine keeps the
calls that were not answered yet. Nothing in its definition says that it ever answers, or that it
never asks the tokenizer for more after the end.
-/

namespace LogFilter

/-! ## Tokenizers and the tokens that are left -/

namespace Tokenizer

open Text

/-- The current token and the tokens of the unread text. -/
def tokens (t : Tokenizer) : Tokens :=
  if t.current.kind = .endOfInput then .finish t.current.position
  else .token t.current (Tokens.ofChars t.offset t.unread)

/-- The text from the current token on. -/
def remaining (t : Tokenizer) : List Char := t.current.text.toList ++ t.unread

/-- A tokenizer that has a token: the current one has characters, unless it is that of the end. -/
def IsReady (t : Tokenizer) : Prop := t.current.text = "" ↔ t.current.kind = .endOfInput

theorem tokens_of_end {t : Tokenizer} (h : t.current.kind = .endOfInput) :
    t.tokens = .finish t.current.position := if_pos h

theorem tokens_of_not_end {t : Tokenizer} (h : t.current.kind ≠ .endOfInput) :
    t.tokens = .token t.current (Tokens.ofChars t.offset t.unread) := if_neg h

theorem head_tokens {t : Tokenizer} (h : t.IsReady) : t.tokens.head = .ok t.current := by
  by_cases hend : t.current.kind = .endOfInput
  · have hempty : t.current.text = "" := h.2 hend
    rw [tokens_of_end hend, Tokens.head, Tokens.endToken, ← hend, ← hempty]
  · rw [tokens_of_not_end hend, Tokens.head]

/-- What was read is the first of the tokens that were left. -/
theorem next_ofChars (t : Tokenizer) (hend : t.current.kind ≠ .endOfInput) :
    (∃ t', t.next = (.ok (), t') ∧ t'.IsReady ∧ t'.tokens = Tokens.ofChars t.offset t.unread) ∨
      ∃ fault position t', t.next = (.error (.lexical fault position), t') ∧
        Tokens.ofChars t.offset t.unread = .failure fault position := by
  rw [next, if_neg hend, Tokens.ofChars_eq]
  cases hlex : Lexeme.of (trimStart t.unread) with
  | token kind word rest =>
    simp only [hlex]
    have hkind : kind ≠ .endOfInput := by
      rintro rfl
      exact Lexeme.of_isProper hlex
    refine .inl ⟨_, rfl, iff_of_false ?_ hkind, tokens_of_not_end hkind⟩
    intro hempty
    exact Lexeme.of_ne_nil hlex (String.ofList_injective hempty)
  | finish =>
    simp only [hlex]
    exact .inl ⟨_, rfl, iff_of_true rfl rfl, tokens_of_end rfl⟩
  | failure fault read rest =>
    simp only [hlex]
    exact .inr ⟨fault, _, _, rfl, rfl⟩

/-- The tokenizer goes through the tokens that are left, with the same errors. -/
theorem next_tail (t : Tokenizer) :
    (∃ t', t.next = (.ok (), t') ∧ t'.IsReady ∧ t.tokens.tail = .ok t'.tokens) ∨
      ∃ error t', t.next = (.error error, t') ∧ t.tokens.tail = .error error := by
  by_cases hend : t.current.kind = .endOfInput
  · refine .inr ⟨_, t, next_of_end hend, ?_⟩
    rw [tokens_of_end hend]
    rfl
  rw [tokens_of_not_end hend]
  rcases next_ofChars t hend with
    ⟨t', hnext, hready, htokens⟩ | ⟨fault, position, t', hnext, hfails⟩
  · refine .inl ⟨t', hnext, hready, ?_⟩
    rw [← htokens]
    by_cases hend' : t'.current.kind = .endOfInput
    · rw [tokens_of_end hend']
      rfl
    · rw [tokens_of_not_end hend']
      rfl
  · refine .inr ⟨_, t', hnext, ?_⟩
    rw [hfails]
    rfl

/-- What is left after a token was read. -/
theorem tail_of_next {t t' : Tokenizer} (h : t.next = (.ok (), t')) :
    t'.IsReady ∧ t.tokens.tail = .ok t'.tokens := by
  rcases t.next_tail with ⟨u, hu, hready, htail⟩ | ⟨error, u, hu, _⟩
  · obtain rfl : t' = u := congrArg Prod.snd (h.symm.trans hu)
    exact ⟨hready, htail⟩
  · exact absurd (congrArg Prod.fst (h.symm.trans hu)) (by simp)

/-- A tokenizer starts with all tokens of its text, unless the text does not start with one. -/
theorem ofText_tokens (text : String) :
    (∃ t, ofText text = .ok t ∧ t.IsReady ∧ t.tokens = Tokens.ofText text) ∨
      ∃ fault position, ofText text = .error (.lexical fault position) ∧
        Tokens.ofText text = .failure fault position := by
  have hstart : (start text).current.kind ≠ .endOfInput := TokenKind.noConfusion
  rw [ofText]
  rcases next_ofChars _ hstart with
    ⟨t, hnext, hready, htokens⟩ | ⟨fault, position, t, hnext, hfails⟩
  · exact .inl ⟨t, by rw [hnext], hready, htokens⟩
  · exact .inr ⟨fault, position, by rw [hnext], hfails⟩

/-- What is left to read gets shorter with every token. -/
theorem remaining_next {t t' : Tokenizer} (hready : t.IsReady) (h : t.next = (.ok (), t')) :
    t'.remaining.length < t.remaining.length := by
  have hend : t.current.kind ≠ .endOfInput := by
    intro hend
    rw [next_of_end hend] at h
    exact absurd (congrArg Prod.fst h) (by simp)
  have hmoves : Moves t (.ok t'.current) t' := by
    have := next_moves t
    rwa [h] at this
  obtain ⟨blanks, hunread, _⟩ := hmoves.found
  have hlength : t.current.text.toList ≠ [] := fun hnil =>
    hend (hready.1 (String.toList_eq_nil_iff.1 hnil))
  have hpos := List.length_pos_iff.2 hlength
  rw [remaining, remaining, List.length_append, List.length_append, hunread, List.length_append,
    List.length_append]
  omega

end Tokenizer

namespace Parser

/-! ## Routines and their programs -/

/-- What the parser can be asked for. Loops carry what was parsed in the rounds before. -/
inductive Routine
  | or
  | moreOr (left : Expr)
  | and
  | moreAnd (left : Expr)
  | not
  | relation
  | operand
  | number (negative : Bool)
  | string
  | keyword
  | arguments (name : String) (before : List Expr)

/-- The steps of a routine. -/
inductive Program
  | answer (e : Expr)
  | fail (error : ParseError)
  /-- Looks at the current token. -/
  | look (next : Token → Program)
  /-- Goes past the current token. -/
  | advance (next : Program)
  /-- Waits for the answer of a routine. -/
  | call (routine : Routine) (next : Expr → Program)

namespace Program

/-- Goes past the current token, which must be of a kind. -/
def expect (kind : TokenKind) (next : Program) : Program :=
  look fun t =>
    if t.kind = kind then advance next
    else fail (.expectedToken kind t.kind t.text t.position)

/-- Goes past the current token, which must be a keyword. -/
def eatKeyword (next : String → Program) : Program :=
  look fun t =>
    if t.kind = .keyword then advance (next t.text) else fail (.identifierExpected t.position)

/-- Ends with an expression or an error. -/
def ofResult : Except ParseError Expr → Program
  | .ok e => .answer e
  | .error error => .fail error

/-- The level after the word that announces one. -/
def levelName : Program :=
  expect .dot (eatKeyword fun name =>
    match Level.ofName? name with
    | some level => .answer (.literal (.level level))
    | none => .fail (.unknownLevel name))

/-- The end of a call. -/
def close (env : Surroundings) (name : String) (arguments : List Expr) : Program :=
  expect .rightParen (ofResult (Parser.bind env.resolve name arguments))

end Program

/-- What a routine does. -/
def Routine.program (env : Surroundings) : Routine → Program
  | .or => .call .and fun left => .call (.moreOr left) .answer
  | .moreOr left => .look fun t =>
    if t.word.IsOr then
      .advance (.call .and fun right => .call (.moreOr (.or left right)) .answer)
    else .answer left
  | .and => .call .not fun left => .call (.moreAnd left) .answer
  | .moreAnd left => .look fun t =>
    if t.word.IsAnd then
      .advance (.call .not fun right => .call (.moreAnd (.and left right)) .answer)
    else .answer left
  | .not => .look fun t =>
    if t.word.IsNot then .advance (.call .not fun inner => .answer (.not inner))
    else .call .relation .answer
  | .relation => .call .operand fun left => .look fun t =>
    match t.kind.relation? with
    | none => .answer left
    | some r => .advance (.call .operand fun right => .answer (.relation r left right))
  | .operand => .look fun t =>
    match t.kind with
    | .leftParen => .advance (.call .or fun inner => .expect .rightParen (.answer inner))
    | .minus => .advance (.look fun digits =>
      if digits.kind = .number then .call (.number true) .answer
      else .fail (.numberExpected digits.kind))
    | .number => .call (.number false) .answer
    | .string => .call .string .answer
    | .keyword => .call .keyword .answer
    | _ => .fail (.unexpectedToken t.text t.position)
  | .number negative => .look fun t => .advance (.ofResult (numberLiteral negative t.text))
  | .string => .look fun t => .advance (.ofResult (stringLiteral env.compile t.stringValue))
  | .keyword => .look fun t => .eatKeyword fun word =>
    match fixedWord? (String.ofList (word.toList.map Char.toLower)) with
    | some e => .answer e
    | none =>
      if String.ofList (word.toList.map Char.toLower) = "loglevel" then .levelName
      else .look fun opening =>
        if opening.kind = .leftParen then .advance (.call (.arguments word []) .answer)
        else .fail (.unexpectedToken word t.position)
  | .arguments name before => .look fun t =>
    if t.kind = .endOfInput ∨ t.kind = .rightParen then .close env name before
    else .call .or fun argument => .look fun comma =>
      if comma.kind = .comma then
        .advance (.call (.arguments name (before ++ [argument])) .answer)
      else .close env name (before ++ [argument])

/-! ## The machine -/

/-- A call that was not answered yet. -/
structure Call where
  routine : Routine
  /-- The tokenizer when the routine was called. -/
  entered : Tokenizer
  /-- What the caller does with the answer. -/
  next : Expr → Program

/-- A machine that runs routines. -/
structure Machine where
  /-- The rest of the routine that was called last. -/
  program : Program
  /-- The calls that wait for an answer, the last one first. -/
  calls : List Call
  tokenizer : Tokenizer

/-- What a machine has come to: it goes on or has answered. -/
inductive Progress
  | going (m : Machine)
  | done (answer : Except ParseError (Expr × Tokenizer))

namespace Machine

/-- One step. -/
def step (env : Surroundings) (m : Machine) : Progress :=
  match m.program with
  | .answer e =>
    match m.calls with
    | [] => .done (.ok (e, m.tokenizer))
    | c :: calls => .going ⟨c.next e, calls, m.tokenizer⟩
  | .fail error => .done (.error error)
  | .look next => .going ⟨next m.tokenizer.current, m.calls, m.tokenizer⟩
  | .advance next =>
    match m.tokenizer.next with
    | (.ok _, t) => .going ⟨next, m.calls, t⟩
    | (.error error, _) => .done (.error error)
  | .call routine next =>
    .going ⟨routine.program env, ⟨routine, m.tokenizer, next⟩ :: m.calls, m.tokenizer⟩

/-- So many steps, or fewer if the machine answers before. -/
def run (env : Surroundings) : Nat → Machine → Progress
  | 0, m => .going m
  | n + 1, m =>
    match m.step env with
    | .going m' => run env n m'
    | .done answer => .done answer

/-- The machine that is asked for an expression. -/
def start (t : Tokenizer) : Machine := ⟨.call .or .answer, [], t⟩

/-! ### Steps -/

/-- The steps after which a machine goes on. -/
inductive Goes (env : Surroundings) : Machine → Machine → Prop
  | answer {e : Expr} {c : Call} {calls : List Call} {t : Tokenizer} :
      Goes env ⟨.answer e, c :: calls, t⟩ ⟨c.next e, calls, t⟩
  | look {next : Token → Program} {calls : List Call} {t : Tokenizer} :
      Goes env ⟨.look next, calls, t⟩ ⟨next t.current, calls, t⟩
  | advance {next : Program} {calls : List Call} {t t' : Tokenizer} (read : t.next = (.ok (), t')) :
      Goes env ⟨.advance next, calls, t⟩ ⟨next, calls, t'⟩
  | call {routine : Routine} {next : Expr → Program} {calls : List Call} {t : Tokenizer} :
      Goes env ⟨.call routine next, calls, t⟩ ⟨routine.program env, ⟨routine, t, next⟩ :: calls, t⟩

variable {env : Surroundings} {m m' : Machine}

theorem goes_of_step (h : m.step env = .going m') : Goes env m m' := by
  obtain ⟨program, calls, t⟩ := m
  cases program with
  | answer e =>
    cases calls with
    | nil => exact absurd h (by simp [step])
    | cons c calls => exact Progress.going.inj h ▸ .answer
  | fail error => exact absurd h (by simp [step])
  | look next => exact Progress.going.inj h ▸ .look
  | advance next =>
    rcases hread : t.next with ⟨_ | _, t'⟩
    · exact absurd h (by simp [step, hread])
    · simp only [step, hread] at h
      exact Progress.going.inj h ▸ .advance hread
  | call routine next => exact Progress.going.inj h ▸ .call

/-- What every step keeps is kept by a run. -/
theorem run_keeps {P : Machine → Prop} (hP : ∀ m m', Goes env m m' → P m → P m') {n : Nat}
    (h : P m) (hrun : m.run env n = .going m') : P m' := by
  induction n generalizing m with
  | zero => exact Progress.going.inj hrun ▸ h
  | succ n ih =>
    rw [run] at hrun
    cases hstep : m.step env with
    | going u =>
      rw [hstep] at hrun
      exact ih (hP m u (goes_of_step hstep) h) hrun
    | done answer =>
      rw [hstep] at hrun
      exact absurd hrun (by simp)

end Machine

end Parser

end LogFilter
