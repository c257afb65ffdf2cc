import LogFilter.Except
import LogFilter.Proofs.Condition.Words

/-!
# The parser without its bounds

The functions of the parser answer with proofs that fewer tokens are left, which only their
termination needs. `answer` forgets these proofs, and there is one equation for each function that
says what its answer is in terms of the answers of the others.
-/

namespace LogFilter

namespace Tokens

/-- The tokens after the first one, without the proof that they are fewer. -/
def tail (ts : Tokens) : Except ParseError Tokens := ts.advance.map Subtype.val

/-- The tokens after the first one, which must be of a kind. -/
def after (kind : TokenKind) (ts : Tokens) : Except ParseError Tokens :=
  (ts.expect kind).map Subtype.val

/-- The text of the first token, which must be a keyword, and the tokens after it. -/
def keyword (ts : Tokens) : Except ParseError (String × Tokens) :=
  ts.eatKeyword.map fun p => (p.1, p.2.val)

theorem after_eq (kind : TokenKind) (ts : Tokens) :
    ts.after kind = ts.head >>= fun t =>
      if t.kind = kind then ts.tail
      else .error (.expectedToken kind t.kind t.text t.position) := by
  unfold after expect
  cases ts.head with
  | error => rfl
  | ok t =>
    rw [Except.ok_bind, Except.ok_bind]
    split <;> rfl

theorem keyword_eq (ts : Tokens) :
    ts.keyword = ts.head >>= fun t =>
      if t.kind = .keyword then ts.tail.map (t.text, ·)
      else .error (.identifierExpected t.position) := by
  unfold keyword eatKeyword tail
  cases ts.head with
  | error => rfl
  | ok t =>
    rw [Except.ok_bind, Except.ok_bind]
    split
    · cases ts.advance <;> rfl
    · rfl

theorem tail_token {t : Token} {r : Tokens} (h : r.IsComplete) : (token t r).tail = .ok r := by
  cases r with
  | token => rfl
  | finish => rfl
  | failure => exact absurd h not_isComplete_failure

theorem tail_eq_ok {ts rest : Tokens} (h : ts.tail = .ok rest) : ∃ t, ts = token t rest := by
  cases ts with
  | token t r =>
    refine ⟨t, ?_⟩
    cases r with
    | failure => exact absurd h (by simp [tail, advance, Except.map])
    | token => exact congrArg (token t) (Except.ok.inj h)
    | finish => exact congrArg (token t) (Except.ok.inj h)
  | finish => exact absurd h (by simp [tail, advance, Except.map])
  | failure => exact absurd h (by simp [tail, advance, Except.map])

theorem after_token {t : Token} {r : Tokens} (h : r.IsComplete) :
    (token t r).after t.kind = .ok r := by
  rw [after_eq, head, Except.ok_bind, if_pos rfl, tail_token h]

theorem after_eq_ok {kind : TokenKind} {ts rest : Tokens} (h : ts.after kind = .ok rest) :
    ∃ t, ts = token t rest ∧ t.kind = kind := by
  rw [after_eq, Except.bind_eq_ok] at h
  obtain ⟨t, ht, h⟩ := h
  split at h
  · next hk =>
    obtain ⟨u, rfl⟩ := tail_eq_ok h
    obtain rfl : u = t := Except.ok.inj ht
    exact ⟨u, rfl, hk⟩
  · exact absurd h (by simp)

theorem keyword_token {t : Token} {r : Tokens} (hk : t.kind = .keyword) (h : r.IsComplete) :
    (token t r).keyword = .ok (t.text, r) := by
  rw [keyword_eq, head, Except.ok_bind, if_pos hk, tail_token h]
  rfl

theorem keyword_eq_ok {ts rest : Tokens} {text : String} (h : ts.keyword = .ok (text, rest)) :
    ∃ t, ts = token t rest ∧ t.kind = .keyword ∧ t.text = text := by
  rw [keyword_eq, Except.bind_eq_ok] at h
  obtain ⟨t, ht, h⟩ := h
  split at h
  · next hk =>
    obtain ⟨r, hr, heq⟩ := Except.map_eq_ok.1 h
    obtain ⟨rfl, rfl⟩ := Prod.mk.inj heq
    obtain ⟨u, rfl⟩ := tail_eq_ok hr
    obtain rfl : u = t := Except.ok.inj ht
    exact ⟨u, rfl, hk, rfl⟩
  · exact absurd h (by simp)

end Tokens

namespace Parser

/-- What was parsed and what is left. -/
def Parsed.pair {α : Type} {n : Nat} (p : Parsed α n) : α × Tokens := (p.value, p.rest)

/-- The answer of a parser without the proof that fewer tokens are left. -/
def answer {α : Type} {n : Nat} (r : Except ParseError (Parsed α n)) :
    Except ParseError (α × Tokens) := r.map Parsed.pair

section

variable {α β : Type} {m n : Nat}

theorem answer_bind {r : Except ParseError (Parsed α m)}
    {f : Parsed α m → Except ParseError (Parsed β n)}
    {g : α × Tokens → Except ParseError (β × Tokens)} (h : ∀ p, answer (f p) = g p.pair) :
    answer (r >>= f) = answer r >>= g := by
  cases r with
  | error => rfl
  | ok p => exact h p

theorem answer_widen {r : Except ParseError (Parsed α m)} (h : m ≤ n) :
    answer (r >>= fun p => .ok (p.widen h)) = answer r := by
  cases r <;> rfl

theorem answer_advance {ts : Tokens} {f : {r : Tokens // r.size < ts.size} →
      Except ParseError (Parsed β n)} {g : Tokens → Except ParseError (β × Tokens)}
    (h : ∀ r, answer (f r) = g r.val) : answer (ts.advance >>= f) = ts.tail >>= g := by
  unfold Tokens.tail
  cases ts.advance with
  | error => rfl
  | ok r => exact h r

theorem answer_expect {kind : TokenKind} {ts : Tokens} {f : {r : Tokens // r.size < ts.size} →
      Except ParseError (Parsed β n)} {g : Tokens → Except ParseError (β × Tokens)}
    (h : ∀ r, answer (f r) = g r.val) : answer (ts.expect kind >>= f) = ts.after kind >>= g := by
  unfold Tokens.after
  cases ts.expect kind with
  | error => rfl
  | ok r => exact h r

theorem answer_head {ts : Tokens} {f : Token → Except ParseError (Parsed β n)}
    {g : Token → Except ParseError (β × Tokens)} (h : ∀ t, answer (f t) = g t) :
    answer (ts.head >>= f) = ts.head >>= g := by
  cases ts.head with
  | error => rfl
  | ok t => exact h t

theorem answer_fewer {r : Except ParseError (Parsed α n)} {v : α} {rest : Tokens}
    (h : answer r = .ok (v, rest)) : rest.size < n := by
  cases r with
  | error => exact absurd h (by simp [answer, Except.map])
  | ok p =>
    simp only [answer, Except.map, Except.ok.injEq, Parsed.pair, Prod.mk.injEq] at h
    exact h.2 ▸ p.fewer

end

variable (env : Surroundings)

theorem answer_parseOr (ts : Tokens) :
    answer (parseOr env ts) =
      answer (parseAnd env ts) >>= fun p => answer (moreOr env p.1 p.2) := by
  rw [parseOr]
  exact answer_bind fun l => answer_widen _

theorem answer_moreOr (left : Expr) (ts : Tokens) :
    answer (moreOr env left ts) =
      if ts.startsWithWord "or" || ts.startsWith .or then do
        let r ← ts.tail
        let p ← answer (parseAnd env r)
        answer (moreOr env (.or left p.1) p.2)
      else .ok (left, ts) := by
  rw [moreOr]
  split
  · exact answer_advance fun r => answer_bind fun p => answer_widen _
  · rfl

theorem answer_parseAnd (ts : Tokens) :
    answer (parseAnd env ts) =
      answer (parseNot env ts) >>= fun p => answer (moreAnd env p.1 p.2) := by
  rw [parseAnd]
  exact answer_bind fun l => answer_widen _

theorem answer_moreAnd (left : Expr) (ts : Tokens) :
    answer (moreAnd env left ts) =
      if ts.startsWithWord "and" || ts.startsWith .and then do
        let r ← ts.tail
        let p ← answer (parseNot env r)
        answer (moreAnd env (.and left p.1) p.2)
      else .ok (left, ts) := by
  rw [moreAnd]
  split
  · exact answer_advance fun r => answer_bind fun p => answer_widen _
  · rfl

theorem answer_parseNot (ts : Tokens) :
    answer (parseNot env ts) =
      if ts.startsWithWord "not" || ts.startsWith .not then do
        let r ← ts.tail
        let p ← answer (parseNot env r)
        .ok (.not p.1, p.2)
      else answer (parseRelation env ts) := by
  rw [parseNot]
  split
  · exact answer_advance fun r => answer_bind fun p => rfl
  · rfl

theorem answer_parseRelation (ts : Tokens) :
    answer (parseRelation env ts) = (do
      let l ← answer (parseOperand env ts)
      let t ← l.2.head
      match t.kind.relation? with
      | none => .ok l
      | some relation => do
        let r ← l.2.tail
        let p ← answer (parseOperand env r)
        .ok (.relation relation l.1 p.1, p.2)) := by
  rw [parseRelation]
  refine answer_bind fun l => answer_head fun t => ?_
  cases t.kind.relation? with
  | none => rfl
  | some relation => exact answer_advance fun r => answer_bind fun p => rfl

theorem answer_parseNumber (negative : Bool) (ts : Tokens) :
    answer (parseNumber negative ts) = (do
      let t ← ts.head
      let r ← ts.tail
      let e ← numberLiteral negative t.text
      .ok (e, r)) := by
  unfold parseNumber
  refine answer_head fun t => answer_advance fun r => ?_
  cases numberLiteral negative t.text <;> rfl

theorem answer_parseString (compile : LayoutCompiler) (ts : Tokens) :
    answer (parseString compile ts) = (do
      let t ← ts.head
      let r ← ts.tail
      let e ← stringLiteral compile t.stringValue
      .ok (e, r)) := by
  unfold parseString
  refine answer_head fun t => answer_advance fun r => ?_
  cases stringLiteral compile t.stringValue <;> rfl

theorem answer_parseLevel (ts : Tokens) :
    answer (parseLevel ts) = (do
      let d ← ts.after .dot
      let p ← d.keyword
      match Level.ofName? p.1 with
      | some level => .ok (.literal (.level level), p.2)
      | none => .error (.unknownLevel p.1)) := by
  unfold parseLevel
  refine answer_expect fun ⟨d, _⟩ => ?_
  unfold Tokens.keyword
  simp only
  cases d.eatKeyword with
  | error => rfl
  | ok p =>
    simp only [Bind.bind, Except.bind, Except.map]
    cases Level.ofName? p.1 <;> rfl

/-- The call of a method whose name and opening parenthesis were taken. -/
def callOperand (name : String) (ts : Tokens) : Except ParseError (Expr × Tokens) := do
  let p ← answer (parseArguments env ts)
  let c ← p.2.after .rightParen
  let e ← Parser.bind env.resolve name p.1
  .ok (e, c)

/-- The operand that a keyword starts: a fixed word, a level or a call. -/
def keywordOperand (t : Token) (ts : Tokens) : Except ParseError (Expr × Tokens) :=
  match fixedWord? (String.ofList (t.text.toList.map Char.toLower)) with
  | some e => .ok (e, ts)
  | none =>
    if String.ofList (t.text.toList.map Char.toLower) = "loglevel" then answer (parseLevel ts)
    else if ts.startsWith .leftParen then ts.tail >>= callOperand env t.text
    else .error (.unexpectedToken t.text t.position)

theorem answer_parseOperand (ts : Tokens) :
    answer (parseOperand env ts) = (do
      let t ← ts.head
      match t.kind with
      | .leftParen => do
        let r ← ts.tail
        let p ← answer (parseOr env r)
        let c ← p.2.after .rightParen
        .ok (p.1, c)
      | .minus => do
        let r ← ts.tail
        let digits ← r.head
        if digits.kind = .number then answer (parseNumber true r)
        else .error (.numberExpected digits.kind)
      | .number => answer (parseNumber false ts)
      | .string => answer (parseString env.compile ts)
      | .keyword => ts.tail >>= keywordOperand env t
      | _ => .error (.unexpectedToken t.text t.position)) := by
  rw [parseOperand]
  refine answer_head fun t => ?_
  cases t.kind with
  | leftParen =>
    exact answer_advance fun r => answer_bind fun p => answer_expect fun c => rfl
  | minus =>
    refine answer_advance fun r => answer_head fun digits => ?_
    by_cases hd : digits.kind = .number
    · simp only [hd, if_true]
      exact answer_widen _
    · simp only [hd, if_false]
      rfl
  | number => rfl
  | string => rfl
  | keyword =>
    refine answer_advance fun r => ?_
    simp only [keywordOperand]
    cases fixedWord? (String.ofList (t.text.toList.map Char.toLower)) with
    | some e => rfl
    | none =>
      simp only
      split
      · exact answer_widen _
      split
      · refine answer_advance fun o => answer_bind fun p => answer_expect fun c => ?_
        simp only [Parsed.pair]
        cases Parser.bind env.resolve t.text p.value <;> rfl
      · rfl
  | _ => rfl

theorem answer_parseArguments (ts : Tokens) :
    answer (parseArguments env ts) = (do
      let t ← ts.head
      if t.kind = .endOfInput ∨ t.kind = .rightParen then .ok ([], ts)
      else do
        let p ← answer (parseOr env ts)
        if p.2.startsWith .comma then do
          let c ← p.2.tail
          let q ← answer (parseArguments env c)
          .ok (p.1 :: q.1, q.2)
        else .ok ([p.1], p.2)) := by
  rw [parseArguments]
  refine answer_head fun t => ?_
  split
  · rfl
  · refine answer_bind fun p => ?_
    simp only [Parsed.pair]
    by_cases hc : p.rest.startsWith .comma = true
    · simp only [hc, if_true]
      exact answer_advance fun c => answer_bind fun q => rfl
    · simp only [hc, Bool.false_eq_true, if_false]
      rfl

end Parser

end LogFilter
