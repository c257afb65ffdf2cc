import LogFilter.Proofs.Condition.Completeness

/-!
# Failures that nothing later changes

The parser stops at the first thing that is wrong. So where a function of it fails on some words, it
fails in the same way whatever words come after them (`Fails`), and so does every function that
begins with it or that comes to these words after others that derive. There is one lemma for each
place in the grammar; in the end the failure is that of the whole text, `Expr.parse_of_fails`.
-/

namespace LogFilter

namespace Parser

open Tokens

variable {env : Surroundings} {production : Production} {ws l r : List Word} {error : ParseError}

/-- What the parser answers for a production. -/
def answerTo (env : Surroundings) : Production → Tokens → Except ParseError (Expr × Tokens)
  | .or, ts => answer (parseOr env ts)
  | .and, ts => answer (parseAnd env ts)
  | .not, ts => answer (parseNot env ts)
  | .relation, ts => answer (parseRelation env ts)
  | .operand, ts => answer (parseOperand env ts)

/-- The parser fails on words, whatever stands after them. -/
def Fails (env : Surroundings) (production : Production) (ws : List Word) (error : ParseError) :
    Prop :=
  ∀ ts rest, Takes ts ws rest → rest.IsComplete → answerTo env production ts = .error error

theorem Fails.append (h : Fails env production l error) (r : List Word) :
    Fails env production (l ++ r) error := by
  intro ts rest ht hc
  obtain ⟨mid, hl, hr⟩ := ht.split
  exact h ts mid hl (hr.isComplete_iff.2 hc)

/-! ## From one production to the next -/

theorem Fails.relation (h : Fails env .operand ws error) : Fails env .relation ws error := by
  intro ts rest ht hc
  have hoperand : answer (parseOperand env ts) = .error error := h ts rest ht hc
  rw [answerTo, answer_parseRelation, hoperand]
  rfl

/-- A word that denies would be taken as the operator. -/
theorem Fails.not (h : Fails env .relation ws error) (hne : ws ≠ [])
    (hw : ∀ w ∈ ws.head?, ¬w.IsNot) : Fails env .not ws error := by
  intro ts rest ht hc
  have hrelation : answer (parseRelation env ts) = .error error := h ts rest ht hc
  obtain ⟨w, ws', rfl⟩ := List.exists_cons_of_ne_nil hne
  obtain ⟨t, ts', rfl, rfl, _⟩ := ht.cons_inv
  have hnot : ¬t.word.IsNot := hw t.word (by simp)
  rw [answerTo, answer_parseNot,
    if_neg fun hs => hnot (startsWith_token.1 (startsWithOperator_iff.1 hs)), hrelation]

theorem Fails.and (h : Fails env .not ws error) : Fails env .and ws error := by
  intro ts rest ht hc
  have hnot : answer (parseNot env ts) = .error error := h ts rest ht hc
  rw [answerTo, answer_parseAnd, hnot]
  rfl

theorem Fails.or (h : Fails env .and ws error) : Fails env .or ws error := by
  intro ts rest ht hc
  have hand : answer (parseAnd env ts) = .error error := h ts rest ht hc
  rw [answerTo, answer_parseOr, hand]
  rfl

/-! ## After what derives -/

theorem relation_fails {sign : Word} {a : Expr} {relation : Relation}
    (hl : Completes env .operand l a) (hs : sign.kind.relation? = some relation)
    (h : Fails env .operand r error) : Fails env .relation (l ++ sign :: r) error := by
  intro ts rest ht hc
  obtain ⟨t, ts', htl, rfl, htr⟩ := ht.middle_inv
  have hc' : ts'.IsComplete := htr.isComplete_iff.2 hc
  have hright : answer (parseOperand env ts') = .error error := h ts' rest htr hc
  have hkind : t.kind.relation? = some relation := hs
  rw [answerTo, answer_parseRelation, hl ts _ htl (isComplete_token.2 hc')]
  simp only [Bind.bind, Except.bind, head, hkind, tail_token hc', hright]

theorem not_fails {sign : Word} (hs : sign.IsNot) (h : Fails env .not ws error) :
    Fails env .not (sign :: ws) error := by
  intro ts rest ht hc
  obtain ⟨t, ts', rfl, rfl, ht'⟩ := ht.cons_inv
  have hinner : answer (parseNot env ts') = .error error := h ts' rest ht' hc
  rw [answerTo, answer_parseNot, if_pos (startsWithOperator_iff.2 (startsWith_token.2 hs)),
    tail_token (ht'.isComplete_iff.2 hc)]
  simp only [Bind.bind, Except.bind, hinner]

theorem and_fails {sign : Word} {a : Expr} (hl : Completes env .and l a) (hs : sign.IsAnd)
    (h : Fails env .not r error) : Fails env .and (l ++ sign :: r) error := by
  intro ts rest ht hc
  obtain ⟨t, ts', htl, rfl, htr⟩ := ht.middle_inv
  have hc' : ts'.IsComplete := htr.isComplete_iff.2 hc
  have hright : answer (parseNot env ts') = .error error := h ts' rest htr hc
  rw [answerTo, hl ts _ htl (isComplete_token.2 hc')
      (fun h => hs.not_isRelation (startsWith_token.1 h)),
    loop_step (answer_moreAnd env) hs hc', hright]
  rfl

theorem or_fails {sign : Word} {a : Expr} (hl : Completes env .or l a) (hs : sign.IsOr)
    (h : Fails env .and r error) : Fails env .or (l ++ sign :: r) error := by
  intro ts rest ht hc
  obtain ⟨t, ts', htl, rfl, htr⟩ := ht.middle_inv
  have hc' : ts'.IsComplete := htr.isComplete_iff.2 hc
  have hright : answer (parseAnd env ts') = .error error := h ts' rest htr hc
  rw [answerTo, hl ts _ htl (isComplete_token.2 hc')
      (fun h => hs.not_isRelation (startsWith_token.1 h))
      (fun h => hs.not_isAnd (startsWith_token.1 h)),
    loop_step (answer_moreOr env) hs hc', hright]
  rfl

theorem parens_fails {opening : Word} (ho : opening.kind = .leftParen)
    (h : Fails env .or ws error) : Fails env .operand (opening :: ws) error := by
  intro ts rest ht hc
  obtain ⟨t, ts', rfl, rfl, ht'⟩ := ht.cons_inv
  have hinner : answer (parseOr env ts') = .error error := h ts' rest ht' hc
  have hopen : t.kind = .leftParen := ho
  rw [answerTo, answer_parseOperand]
  simp only [Bind.bind, Except.bind, head, hopen, tail_token (ht'.isComplete_iff.2 hc), hinner]

/-! ## Numbers -/

theorem parseNumber_fails {negative : Bool} {t : Token} {rest : Tokens} (hc : rest.IsComplete)
    (h : numberLiteral negative t.text = .error error) :
    answer (parseNumber negative (token t rest)) = .error error := by
  rw [answer_parseNumber, tail_token hc]
  simp only [head, h, Bind.bind, Except.bind]

theorem number_fails {w : Word} (hw : w.kind = .number)
    (h : numberLiteral false (String.ofList w.text) = .error error) :
    Fails env .operand [w] error := by
  intro ts rest ht hc
  obtain ⟨t, ts', rfl, rfl, ht'⟩ := ht.cons_inv
  obtain rfl := ht'.nil_inv
  have hk : t.kind = .number := hw
  rw [Token.word, String.ofList_toList] at h
  rw [answerTo, answer_parseOperand]
  simp only [Bind.bind, Except.bind, head, hk, parseNumber_fails hc h]

theorem negative_fails {minus w : Word} (hm : minus.kind = .minus) (hw : w.kind = .number)
    (h : numberLiteral true (String.ofList w.text) = .error error) :
    Fails env .operand [minus, w] error := by
  intro ts rest ht hc
  obtain ⟨t, ts', rfl, rfl, ht'⟩ := ht.cons_inv
  obtain ⟨u, ts'', rfl, rfl, ht''⟩ := ht'.cons_inv
  obtain rfl := ht''.nil_inv
  have hminus : t.kind = .minus := hm
  have hk : u.kind = .number := hw
  rw [Token.word, String.ofList_toList] at h
  rw [answerTo, answer_parseOperand]
  simp only [Bind.bind, Except.bind, head, hminus, tail_token (isComplete_token.2 hc), hk, if_true,
    parseNumber_fails hc h]

/-! ## Calls -/

/-- The parser fails on the words of arguments, whatever stands after them. -/
def ArgumentsFail (env : Surroundings) (ws : List Word) (error : ParseError) : Prop :=
  ∀ ts rest, Takes ts ws rest → rest.IsComplete → answer (parseArguments env ts) = .error error

/-- An argument fails. Its first word is one with which an expression starts, so that the arguments
do not end there. -/
theorem arguments_fail_first {w : Word} (hw : w.kind.Starts)
    (h : Fails env .or (w :: ws) error) : ArgumentsFail env (w :: ws) error := by
  intro ts rest ht hc
  have hfirst : answer (parseOr env ts) = .error error := h ts rest ht hc
  obtain ⟨t, ts', rfl, rfl, _⟩ := ht.cons_inv
  rw [answer_parseArguments_first (startsWith_token.2 hw), hfirst]
  rfl

/-- The arguments after one that derives fail. -/
theorem arguments_fail_later {comma : Word} {e : Expr} (hd : Derives env .or l e)
    (hk : comma.kind = .comma) (h : ArgumentsFail env r error) :
    ArgumentsFail env (l ++ comma :: r) error := by
  intro ts rest ht hc
  obtain ⟨c, ts', hfirst, rfl, hrest⟩ := ht.middle_inv
  have hc' : ts'.IsComplete := hrest.isComplete_iff.2 hc
  have hlater : answer (parseArguments env ts') = .error error := h ts' rest hrest hc
  have hstart : startsWith .comma (token c ts') = true :=
    startsWith_iff.2 (startsWith_token.2 hk)
  rw [answer_parseArguments_first (startsWith_of_derives hd hfirst),
    parseOr_of_closes (completes hd) hfirst hc' (Or.inl hk)]
  simp only [Bind.bind, Except.bind, hstart, if_true, tail_token hc', hlater]

theorem ArgumentsFail.append (h : ArgumentsFail env l error) (r : List Word) :
    ArgumentsFail env (l ++ r) error := by
  intro ts rest ht hc
  obtain ⟨mid, hl, hr⟩ := ht.split
  exact h ts mid hl (hr.isComplete_iff.2 hc)

theorem call_fails_arguments {name opening : Word} (hn : name.kind = .keyword)
    (hr : ∀ reserved ∈ reservedWords, ¬name.Says reserved) (ho : opening.kind = .leftParen)
    (h : ArgumentsFail env ws error) : Fails env .operand (name :: opening :: ws) error := by
  intro ts rest ht hc
  obtain ⟨t, ts', rfl, rfl, hts⟩ := ht.cons_inv
  obtain ⟨o, os, rfl, rfl, hos⟩ := hts.cons_inv
  have harguments : answer (parseArguments env os) = .error error := h os rest hos hc
  rw [answerTo, answer_parseOperand_call hn hr ho (hos.isComplete_iff.2 hc), callOperand,
    harguments]
  rfl

/-- All arguments derive, and the name is bound to nothing for so many of them. -/
theorem call_fails_bind {name opening closing : Word} {arguments : List (List Word × Expr)}
    (hn : name.kind = .keyword) (hr : ∀ reserved ∈ reservedWords, ¬name.Says reserved)
    (ho : opening.kind = .leftParen) (hs : Separated (arguments.map Prod.fst) ws)
    (hd : ∀ p ∈ arguments, Derives env .or p.1 p.2) (hk : closing.kind = .rightParen)
    (h : Parser.bind env.resolve (String.ofList name.text) (arguments.map Prod.snd) =
      .error error) :
    Fails env .operand (name :: opening :: (ws ++ [closing])) error := by
  intro ts rest ht hc
  obtain ⟨t, ts', rfl, rfl, hts⟩ := ht.cons_inv
  obtain ⟨o, os, rfl, rfl, hos⟩ := hts.cons_inv
  obtain ⟨u, ts'', hws, rfl, hend⟩ := hos.middle_inv
  obtain rfl := hend.nil_inv
  have hco : os.IsComplete := hws.isComplete_iff.2 (isComplete_token.2 hc)
  rw [Token.word, String.ofList_toList] at h
  rw [answerTo, answer_parseOperand_call hn hr ho hco,
    callOperand_closed hs hd (fun p hp => completes (hd p hp)) hws hc hk, h]
  rfl

end Parser

/-- **A failure on the words of a text is that of the text.** -/
theorem Expr.parse_of_fails {env : Surroundings} {text : String} {error : ParseError}
    (hc : (Tokens.ofText text).IsComplete)
    (h : Parser.Fails env .or (Tokens.ofText text).words error) :
    Expr.parse env text = .error error := by
  obtain ⟨position, ht⟩ := Tokens.takes_words hc
  have hanswer : Parser.answer (Parser.parseOr env (Tokens.ofText text)) = .error error :=
    h _ _ ht (Tokens.isComplete_finish position)
  rw [Expr.parse_eq, hanswer]
  rfl

end LogFilter
