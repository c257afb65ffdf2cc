import LogFilter.Proofs.Condition.Soundness

/-!
# What derives is parsed

The other direction: the parser answers the tree of every derivation. What has to be known of the
tokens after a production is only that they do not go on with it: after a comparison stands no
second one, after the operands of `and` no further `and`. The productions with themselves on the
left are loops in the parser, so for them the answer is stated as that of the loop on what is left.

* `Expr.parse_eq_ok_iff`: the parser accepts exactly the texts that derive, with their trees.
* `Derives.unique`: words have one tree at most.
-/

namespace LogFilter

namespace Word

/-- The sign of a comparison. -/
def IsRelation (w : Word) : Prop := w.kind.relation?.isSome = true

theorem IsOperator.kind {sign : TokenKind} {name : String} {w : Word}
    (h : w.IsOperator sign name) : w.kind = .keyword ∨ w.kind = sign := by
  rcases h with h | h
  · exact Or.inl h.1
  · exact Or.inr h

theorem IsOr.not_isRelation {w : Word} (h : w.IsOr) : ¬w.IsRelation := by
  rcases h.kind with hk | hk <;> simp [IsRelation, hk, TokenKind.relation?]

theorem IsAnd.not_isRelation {w : Word} (h : w.IsAnd) : ¬w.IsRelation := by
  rcases h.kind with hk | hk <;> simp [IsRelation, hk, TokenKind.relation?]

theorem IsOr.not_isAnd {w : Word} (h : w.IsOr) : ¬w.IsAnd := by
  intro ha
  rcases h with h | h <;> rcases ha with ha | ha
  · exact absurd (h.unique ha (by decide) (by decide)) (by decide)
  · exact absurd (h.1.symm.trans ha) (by decide)
  · exact absurd (h.symm.trans ha.1) (by decide)
  · exact absurd (h.symm.trans ha) (by decide)

/-- The words that can stand after a whole expression: a comma or a closing parenthesis. -/
def Closes (w : Word) : Prop := w.kind = .comma ∨ w.kind = .rightParen

theorem Closes.not_isRelation {w : Word} (h : w.Closes) : ¬w.IsRelation := by
  rcases h with h | h <;> simp [IsRelation, h, TokenKind.relation?]

theorem Closes.not_isOperator {w : Word} {sign : TokenKind} {name : String} (h : w.Closes)
    (hs : sign ≠ .comma ∧ sign ≠ .rightParen) : ¬w.IsOperator sign name := by
  intro ho
  rcases h with h | h <;> rcases ho.kind with hk | hk
  · exact absurd (h.symm.trans hk) (by decide)
  · exact hs.1 (hk.symm.trans h)
  · exact absurd (h.symm.trans hk) (by decide)
  · exact hs.2 (hk.symm.trans h)

end Word

namespace Parser

open Tokens

/-! ## Single steps -/

section

variable {sign : TokenKind} {name : String} {join : Expr → Expr → Expr}
  {next : Tokens → Except ParseError (Expr × Tokens)}
  {more : Expr → Tokens → Except ParseError (Expr × Tokens)}

/-- A loop ends where its operator does not stand. -/
theorem loop_stop
    (hmore : ∀ left ts, more left ts =
      if ts.startsWithWord name || ts.startsWith sign then do
        let r ← ts.tail
        let p ← next r
        more (join left p.1) p.2
      else .ok (left, ts))
    {left : Expr} {ts : Tokens} (h : ¬ts.StartsWith (Word.IsOperator sign name)) :
    more left ts = .ok (left, ts) := by
  rw [hmore, if_neg (fun hs => h (startsWithOperator_iff.1 hs))]

/-- A loop takes its operator and one more operand. -/
theorem loop_step
    (hmore : ∀ left ts, more left ts =
      if ts.startsWithWord name || ts.startsWith sign then do
        let r ← ts.tail
        let p ← next r
        more (join left p.1) p.2
      else .ok (left, ts))
    {left : Expr} {t : Token} {r : Tokens} (h : t.word.IsOperator sign name) (hc : r.IsComplete) :
    more left (token t r) = next r >>= fun p => more (join left p.1) p.2 := by
  rw [hmore, if_pos (startsWithOperator_iff.2 (startsWith_token.2 h)), tail_token hc]
  rfl

end

variable {env : Surroundings}

theorem parseNumber_complete {negative : Bool} {t : Token} {r : Tokens} {v : Value}
    (hc : r.IsComplete) (h : Denotes negative t.word.text v) :
    answer (parseNumber negative (token t r)) = .ok (.literal v, r) := by
  have hok := (numberLiteral_eq_ok h.isNumeral).2 ⟨v, rfl, h⟩
  have htext : String.ofList t.word.text = t.text := by simp [Token.word]
  rw [htext] at hok
  rw [answer_parseNumber, tail_token hc]
  simp only [head, hok, Bind.bind, Except.bind]

theorem parseString_complete {t : Token} {r : Tokens} {template : String} {e : Expr}
    (hc : r.IsComplete) (hq : t.word.text = quotedText template)
    (h : Compiles env.compile template e) :
    answer (parseString env.compile (token t r)) = .ok (e, r) := by
  have hok := stringLiteral_eq_ok.2 h
  rw [answer_parseString, tail_token hc]
  simp only [head, Token.stringValue_of_quoted hq, hok, Bind.bind, Except.bind]

theorem parseLevel_complete {dot name : Token} {r : Tokens} {level : Level} (hc : r.IsComplete)
    (hd : dot.kind = .dot) (hn : name.word.Says level.name) :
    answer (parseLevel (token dot (token name r))) = .ok (.literal (.level level), r) := by
  have hlevel : Level.ofName? name.text = some level := Level.ofName?_eq_some.2 hn.2
  have hdot : (token dot (token name r)).after .dot = .ok (token name r) :=
    hd ▸ after_token (isComplete_token.2 hc)
  rw [answer_parseLevel, hdot]
  simp only [Bind.bind, Except.bind, keyword_token hn.1 hc, hlevel]

/-! ## Productions -/

/-- The parser answers the tree of the words, whatever stands after them that does not go on with
the production. Where the production is a loop the answer is that of the loop on what is left. -/
def Completes (env : Surroundings) (production : Production) (ws : List Word) (e : Expr) : Prop :=
  ∀ ts rest : Tokens, Takes ts ws rest → rest.IsComplete →
    match production with
    | .operand => answer (parseOperand env ts) = .ok (e, rest)
    | .relation => ¬rest.StartsWith Word.IsRelation → answer (parseRelation env ts) = .ok (e, rest)
    | .not => ¬rest.StartsWith Word.IsRelation → answer (parseNot env ts) = .ok (e, rest)
    | .and => ¬rest.StartsWith Word.IsRelation →
      answer (parseAnd env ts) = answer (moreAnd env e rest)
    | .or => ¬rest.StartsWith Word.IsRelation → ¬rest.StartsWith Word.IsAnd →
      answer (parseOr env ts) = answer (moreOr env e rest)

theorem not_isRelation_head {t : Token} {ts : Tokens} (h : ¬ts.StartsWith Word.IsRelation)
    (ht : ts.head = .ok t) : t.kind.relation? = none := by
  rcases head_eq_ok ht with ⟨position, rfl, rfl⟩ | ⟨r, rfl⟩
  · rfl
  · rw [startsWith_token, Word.IsRelation, Bool.not_eq_true, Option.isSome_eq_false_iff,
      Option.isNone_iff_eq_none] at h
    exact h

theorem exists_head {ts : Tokens} (h : ts.IsComplete) : ∃ t, ts.head = .ok t := by
  cases ts with
  | token t r => exact ⟨t, rfl⟩
  | finish position => exact ⟨_, rfl⟩
  | failure => exact absurd h not_isComplete_failure

theorem relationOne_completes {ws : List Word} {e : Expr} (h : Completes env .operand ws e) :
    Completes env .relation ws e := by
  intro ts rest ht hc hrel
  obtain ⟨t, hhead⟩ := exists_head hc
  rw [answer_parseRelation, h ts rest ht hc]
  simp only [Bind.bind, Except.bind, hhead, not_isRelation_head hrel hhead]

theorem relation_completes {sign : Word} {l r : List Word} {a b : Expr} {relation : Relation}
    (hl : Completes env .operand l a) (hs : sign.kind.relation? = some relation)
    (hr : Completes env .operand r b) :
    Completes env .relation (l ++ sign :: r) (.relation relation a b) := by
  intro ts rest ht hc _
  obtain ⟨t, ts', htl, rfl, htr⟩ := ht.middle_inv
  have hc' : ts'.IsComplete := htr.isComplete_iff.2 hc
  have hkind : t.kind.relation? = some relation := hs
  rw [answer_parseRelation, hl ts _ htl (isComplete_token.2 hc')]
  simp only [Bind.bind, Except.bind, head, hkind, tail_token hc', hr ts' rest htr hc]

theorem not_completes {sign : Word} {ws : List Word} {e : Expr} (hs : sign.IsNot)
    (h : Completes env .not ws e) : Completes env .not (sign :: ws) (.not e) := by
  intro ts rest ht hc hrel
  obtain ⟨t, ts', rfl, rfl, ht'⟩ := ht.cons_inv
  rw [answer_parseNot, if_pos (startsWithOperator_iff.2 (startsWith_token.2 hs)),
    tail_token (ht'.isComplete_iff.2 hc)]
  simp only [Bind.bind, Except.bind, h ts' rest ht' hc hrel]

theorem notNone_completes {ws : List Word} {e : Expr} (hd : Derives env .relation ws e)
    (h : Completes env .relation ws e) (hw : ∀ w ∈ ws.head?, ¬w.IsNot) :
    Completes env .not ws e := by
  intro ts rest ht hc hrel
  obtain ⟨w, ws', rfl, _⟩ := hd.starts
  obtain ⟨t, r, rfl, rfl, _⟩ := ht.cons_inv
  have hnot : ¬t.word.IsNot := hw t.word (by simp)
  rw [answer_parseNot, if_neg fun hs => hnot (startsWith_token.1 (startsWithOperator_iff.1 hs))]
  exact h _ rest ht hc hrel

theorem andFirst_completes {ws : List Word} {e : Expr} (h : Completes env .not ws e) :
    Completes env .and ws e := by
  intro ts rest ht hc hrel
  rw [answer_parseAnd, h ts rest ht hc hrel]
  rfl

theorem andMore_completes {sign : Word} {l r : List Word} {a b : Expr}
    (hl : Completes env .and l a) (hs : sign.IsAnd) (hr : Completes env .not r b) :
    Completes env .and (l ++ sign :: r) (.and a b) := by
  intro ts rest ht hc hrel
  obtain ⟨t, ts', htl, rfl, htr⟩ := ht.middle_inv
  have hc' : ts'.IsComplete := htr.isComplete_iff.2 hc
  rw [hl ts _ htl (isComplete_token.2 hc') (fun h => hs.not_isRelation (startsWith_token.1 h)),
    loop_step (answer_moreAnd env) hs hc', hr ts' rest htr hc hrel]
  rfl

theorem orFirst_completes {ws : List Word} {e : Expr} (h : Completes env .and ws e) :
    Completes env .or ws e := by
  intro ts rest ht hc hrel hand
  rw [answer_parseOr, h ts rest ht hc hrel, loop_stop (answer_moreAnd env) hand]
  rfl

theorem orMore_completes {sign : Word} {l r : List Word} {a b : Expr}
    (hl : Completes env .or l a) (hs : sign.IsOr) (hr : Completes env .and r b) :
    Completes env .or (l ++ sign :: r) (.or a b) := by
  intro ts rest ht hc hrel hand
  obtain ⟨t, ts', htl, rfl, htr⟩ := ht.middle_inv
  have hc' : ts'.IsComplete := htr.isComplete_iff.2 hc
  -- the operator goes on with neither of the tighter productions, so it is left to the loop
  rw [hl ts _ htl (isComplete_token.2 hc') (fun h => hs.not_isRelation (startsWith_token.1 h))
      (fun h => hs.not_isAnd (startsWith_token.1 h)),
    loop_step (answer_moreOr env) hs hc', hr ts' rest htr hc hrel,
    loop_stop (answer_moreAnd env) hand]
  rfl

/-- A whole expression before a word that closes it. -/
theorem parseOr_of_closes {ws : List Word} {e : Expr} (h : Completes env .or ws e) {ts r : Tokens}
    {t : Token} (ht : Takes ts ws (token t r)) (hc : r.IsComplete) (hclose : t.word.Closes) :
    answer (parseOr env ts) = .ok (e, token t r) := by
  rw [h ts _ ht (isComplete_token.2 hc) (fun hs => hclose.not_isRelation (startsWith_token.1 hs))
    (fun hs => hclose.not_isOperator (by decide) (startsWith_token.1 hs))]
  exact loop_stop (answer_moreOr env)
    fun hs => hclose.not_isOperator (by decide) (startsWith_token.1 hs)

/-! ## Operands -/

theorem parens_completes {opening closing : Word} {ws : List Word} {e : Expr}
    (ho : opening.kind = .leftParen) (h : Completes env .or ws e)
    (hk : closing.kind = .rightParen) :
    Completes env .operand (opening :: (ws ++ [closing])) e := by
  intro ts rest ht hc
  obtain ⟨t, ts', rfl, rfl, hts⟩ := ht.cons_inv
  obtain ⟨u, r, hws, rfl, hr⟩ := hts.middle_inv
  obtain rfl := hr.nil_inv
  have hopen : t.kind = .leftParen := ho
  have hclose : (token u r).after .rightParen = .ok r := hk ▸ after_token hc
  rw [answer_parseOperand]
  simp only [Bind.bind, Except.bind, head, hopen,
    tail_token (hws.isComplete_iff.2 (isComplete_token.2 hc)),
    parseOr_of_closes h hws hc (Or.inr hk), hclose]

theorem number_completes {w : Word} {v : Value} (hw : w.kind = .number)
    (h : Denotes false w.text v) : Completes env .operand [w] (.literal v) := by
  intro ts rest ht hc
  obtain ⟨t, r, rfl, rfl, hr⟩ := ht.cons_inv
  obtain rfl := hr.nil_inv
  have hk : t.kind = .number := hw
  rw [answer_parseOperand]
  simp only [Bind.bind, Except.bind, head, hk, parseNumber_complete hc h]

theorem negative_completes {minus w : Word} {v : Value} (hm : minus.kind = .minus)
    (hw : w.kind = .number) (h : Denotes true w.text v) :
    Completes env .operand [minus, w] (.literal v) := by
  intro ts rest ht hc
  obtain ⟨t, ts', rfl, rfl, hts⟩ := ht.cons_inv
  obtain ⟨u, r, rfl, rfl, hr⟩ := hts.cons_inv
  obtain rfl := hr.nil_inv
  have hminus : t.kind = .minus := hm
  have hk : u.kind = .number := hw
  rw [answer_parseOperand]
  simp only [Bind.bind, Except.bind, head, hminus, tail_token (isComplete_token.2 hc), hk, if_true,
    parseNumber_complete hc h]

theorem string_completes {w : Word} {template : String} {e : Expr} (hw : w.kind = .string)
    (hq : w.text = quotedText template) (h : Compiles env.compile template e) :
    Completes env .operand [w] e := by
  intro ts rest ht hc
  obtain ⟨t, r, rfl, rfl, hr⟩ := ht.cons_inv
  obtain rfl := hr.nil_inv
  have hk : t.kind = .string := hw
  rw [answer_parseOperand]
  simp only [Bind.bind, Except.bind, head, hk, parseString_complete hc hq h]

theorem word_completes {w : Word} {name : String} {e : Expr} (hw : w.Says name)
    (h : (name, e) ∈ fixedWords) : Completes env .operand [w] e := by
  intro ts rest ht hc
  obtain ⟨t, r, rfl, rfl, hr⟩ := ht.cons_inv
  obtain rfl := hr.nil_inv
  obtain ⟨hk, hlower⟩ :=
    (Word.says_iff (reservedWords_lower (mem_reservedWords_of_mem_fixedWords h))).1 hw
  have hkind : t.kind = .keyword := hk
  have hfixed : fixedWord? (String.ofList (t.text.toList.map Char.toLower)) = some e := by
    rw [show t.text.toList = t.word.text from rfl, hlower]
    exact fixedWord?_eq_some.2 h
  rw [answer_parseOperand]
  simp only [Bind.bind, Except.bind, head, hkind, tail_token hc, keywordOperand, hfixed]

theorem level_completes {w dot name : Word} {level : Level} (hw : w.Says "loglevel")
    (hd : dot.kind = .dot) (hn : name.Says level.name) :
    Completes env .operand [w, dot, name] (.literal (.level level)) := by
  intro ts rest ht hc
  obtain ⟨t, ts', rfl, rfl, hts⟩ := ht.cons_inv
  obtain ⟨d, ds, rfl, rfl, hds⟩ := hts.cons_inv
  obtain ⟨n, r, rfl, rfl, hr⟩ := hds.cons_inv
  obtain rfl := hr.nil_inv
  obtain ⟨hk, hlower⟩ := (Word.says_iff (by decide)).1 hw
  have hkind : t.kind = .keyword := hk
  have hword : String.ofList (t.text.toList.map Char.toLower) = "loglevel" := hlower
  have hfixed : fixedWord? "loglevel" = none := rfl
  have hc' : (token d (token n r)).IsComplete := isComplete_token.2 (isComplete_token.2 hc)
  rw [answer_parseOperand]
  simp only [Bind.bind, Except.bind, head, hkind, tail_token hc', keywordOperand, hword, hfixed,
    if_true, parseLevel_complete hc hd hn]

/-- Where an expression starts, the arguments do not end. -/
theorem answer_parseArguments_first {ts : Tokens} (h : ts.StartsWith fun w => w.kind.Starts) :
    answer (parseArguments env ts) = (do
      let p ← answer (parseOr env ts)
      if p.2.startsWith .comma then do
        let c ← p.2.tail
        let q ← answer (parseArguments env c)
        .ok (p.1 :: q.1, q.2)
      else .ok ([p.1], p.2)) := by
  obtain ⟨u, ts', rfl, hstart⟩ := h
  have hnot : ¬(u.kind = .endOfInput ∨ u.kind = .rightParen) := by
    rintro (hu | hu) <;> simp [TokenKind.Starts, Token.word, hu] at hstart
  rw [answer_parseArguments]
  exact if_neg hnot

/-- Words that derive start as an expression does. -/
theorem startsWith_of_derives {ts rest : Tokens} {production : Production} {ws : List Word}
    {e : Expr} (h : Derives env production ws e) (ht : Takes ts ws rest) :
    ts.StartsWith fun w => w.kind.Starts := by
  obtain ⟨w, ws', rfl, hstart⟩ := h.starts
  obtain ⟨u, ts', rfl, rfl, _⟩ := ht.cons_inv
  exact startsWith_token.2 hstart

/-- Arguments before the parenthesis that closes them. -/
theorem parseArguments_complete {arguments : List (List Word × Expr)} {ws : List Word}
    (hs : Separated (arguments.map Prod.fst) ws)
    (hd : ∀ p ∈ arguments, Derives env .or p.1 p.2)
    (h : ∀ p ∈ arguments, Completes env .or p.1 p.2) {ts r : Tokens} {t : Token}
    (ht : Takes ts ws (token t r)) (hc : r.IsComplete) (hk : t.word.kind = .rightParen) :
    answer (parseArguments env ts) = .ok (arguments.map Prod.snd, token t r) := by
  have hkind : t.kind = .rightParen := hk
  induction arguments generalizing ws ts with
  | nil =>
    cases hs
    obtain rfl := ht.nil_inv
    rw [answer_parseArguments]
    simp [Bind.bind, Except.bind, head, hkind]
  | cons p arguments ih =>
    obtain ⟨hdp, hds⟩ := List.forall_mem_cons.1 hd
    obtain ⟨hp, hps⟩ := List.forall_mem_cons.1 h
    rw [List.map_cons] at hs
    generalize hpieces : arguments.map Prod.fst = pieces at hs
    cases hs with
    | last =>
      obtain rfl : arguments = [] := List.map_eq_nil_iff.1 hpieces
      have hcomma : startsWith .comma (token t r) = false := by simp [startsWith, hkind]
      rw [answer_parseArguments_first (startsWith_of_derives hdp ht)]
      simp [Bind.bind, Except.bind, parseOr_of_closes hp ht hc (Or.inr hk), hcomma]
    | more hcomma hsep =>
      obtain ⟨c, ts', hfirst, rfl, hrest⟩ := ht.middle_inv
      have hc' : ts'.IsComplete := hrest.isComplete_iff.2 (isComplete_token.2 hc)
      have hstart : startsWith .comma (token c ts') = true :=
        startsWith_iff.2 (startsWith_token.2 hcomma)
      have hmore := ih (hpieces ▸ hsep) hds hps hrest
      rw [answer_parseArguments_first (startsWith_of_derives hdp hfirst)]
      simp [Bind.bind, Except.bind, parseOr_of_closes hp hfirst hc' (Or.inl hcomma), hstart,
        tail_token hc', hmore]

/-- A name that is not reserved, in front of an opening parenthesis, is that of a call. -/
theorem answer_parseOperand_call {name opening : Token} {r : Tokens} (hn : name.kind = .keyword)
    (hr : ∀ reserved ∈ reservedWords, ¬name.word.Says reserved) (ho : opening.kind = .leftParen)
    (hc : r.IsComplete) :
    answer (parseOperand env (token name (token opening r))) = callOperand env name.text r := by
  have hfixed : fixedWord? (String.ofList (name.text.toList.map Char.toLower)) = none := by
    rw [fixedWord?_eq_none]
    intro hmem
    have hmem := List.mem_cons_of_mem "loglevel" hmem
    exact hr _ hmem ((Word.says_iff (reservedWords_lower hmem)).2 ⟨hn, rfl⟩)
  have hword : String.ofList (name.text.toList.map Char.toLower) ≠ "loglevel" := fun hlower =>
    hr "loglevel" (by decide) ((Word.says_iff (by decide)).2 ⟨hn, hlower⟩)
  have hopen : startsWith .leftParen (token opening r) = true :=
    startsWith_iff.2 (startsWith_token.2 ho)
  rw [answer_parseOperand]
  simp only [Bind.bind, Except.bind, head, hn, tail_token (isComplete_token.2 hc), keywordOperand,
    hfixed, hword, if_false, hopen, if_true, tail_token hc]

/-- A call is what its name is bound to, once its arguments are parsed and closed. -/
theorem callOperand_closed {name : String} {arguments : List (List Word × Expr)} {ws : List Word}
    (hs : Separated (arguments.map Prod.fst) ws)
    (hd : ∀ p ∈ arguments, Derives env .or p.1 p.2)
    (h : ∀ p ∈ arguments, Completes env .or p.1 p.2) {ts r : Tokens} {t : Token}
    (ht : Takes ts ws (token t r)) (hc : r.IsComplete) (hk : t.word.kind = .rightParen) :
    callOperand env name ts =
      (Parser.bind env.resolve name (arguments.map Prod.snd)).map fun e => (e, r) := by
  have hclose : (token t r).after .rightParen = .ok r := hk ▸ after_token hc
  simp only [callOperand, parseArguments_complete hs hd h ht hc hk, Bind.bind, Except.bind, hclose]
  cases Parser.bind env.resolve name (arguments.map Prod.snd) <;> rfl

theorem call_completes {name opening closing : Word} {arguments : List (List Word × Expr)}
    {ws : List Word} {method : Method} (hn : name.kind = .keyword)
    (hr : ∀ reserved ∈ reservedWords, ¬name.Says reserved) (ho : opening.kind = .leftParen)
    (hs : Separated (arguments.map Prod.fst) ws)
    (hd : ∀ p ∈ arguments, Derives env .or p.1 p.2)
    (h : ∀ p ∈ arguments, Completes env .or p.1 p.2) (hk : closing.kind = .rightParen)
    (hm : env.resolve (String.ofList name.text) arguments.length = .ok (some method)) :
    Completes env .operand (name :: opening :: (ws ++ [closing]))
      (.call (String.ofList name.text) (arguments.map Prod.snd) method) := by
  intro ts rest ht hc
  obtain ⟨t, ts', rfl, rfl, hts⟩ := ht.cons_inv
  obtain ⟨o, os, rfl, rfl, hos⟩ := hts.cons_inv
  obtain ⟨u, r, hws, rfl, hend⟩ := hos.middle_inv
  obtain rfl := hend.nil_inv
  have hco : os.IsComplete := hws.isComplete_iff.2 (isComplete_token.2 hc)
  have htext : String.ofList t.word.text = t.text := by simp [Token.word]
  have hbind : Parser.bind env.resolve t.text (arguments.map Prod.snd) =
      .ok (.call t.text (arguments.map Prod.snd) method) := by
    rw [bind_eq_ok]
    refine ⟨method, ?_, rfl⟩
    rw [List.length_map, ← htext]
    exact hm
  rw [htext, answer_parseOperand_call hn hr ho hco, callOperand_closed hs hd h hws hc hk, hbind]
  rfl

/-- **The parser answers the tree of every derivation.** -/
theorem completes {production : Production} {ws : List Word} {e : Expr}
    (h : Derives env production ws e) : Completes env production ws e := by
  induction h with
  | orFirst _ ih => exact orFirst_completes ih
  | orMore _ hs _ ihl ihr => exact orMore_completes ihl hs ihr
  | andFirst _ ih => exact andFirst_completes ih
  | andMore _ hs _ ihl ihr => exact andMore_completes ihl hs ihr
  | not hs _ ih => exact not_completes hs ih
  | notNone hd hw ih => exact notNone_completes hd ih hw
  | relationOne _ ih => exact relationOne_completes ih
  | relation _ hs _ ihl ihr => exact relation_completes ihl hs ihr
  | parens ho _ hc ih => exact parens_completes ho ih hc
  | number hw hv => exact number_completes hw hv
  | negative hm hw hv => exact negative_completes hm hw hv
  | string hw hq hc => exact string_completes hw hq hc
  | word hw hmem => exact word_completes hw hmem
  | level hw hd hn => exact level_completes hw hd hn
  | call hn hr ho hs hd hc hm ih => exact call_completes hn hr ho hs hd ih hc hm

/-- A whole text that derives is parsed. -/
theorem parseOr_complete {ws : List Word} {e : Expr} {ts : Tokens} {position : Nat}
    (h : Derives env .or ws e) (ht : Takes ts ws (finish position)) :
    answer (parseOr env ts) = .ok (e, finish position) := by
  rw [completes h ts _ ht (isComplete_finish position) not_startsWith_finish not_startsWith_finish]
  exact loop_stop (answer_moreOr env) not_startsWith_finish

end Parser

/-! ## Whole texts -/

open LogFilter.Parser Tokens

/-- What the parser makes of a whole text, without the proof that fewer tokens are left. -/
theorem Expr.parse_eq (env : Surroundings) (text : String) :
    Expr.parse env text = (do
      let p ← answer (parseOr env (ofText text))
      let t ← p.2.head
      if t.kind = .endOfInput then .ok p.1 else .error (.unexpectedToken t.text t.position)) := by
  unfold Expr.parse
  cases parseOr env (ofText text) <;> rfl

/-- Where a parsed condition is followed by the end of the input, its words are all that comes
before the end. -/
theorem Parser.takes_of_end {env : Surroundings} {text : String} {e : Expr} {rest : Tokens}
    {t : Token} (hp : answer (parseOr env (ofText text)) = .ok (e, rest)) (ht : rest.head = .ok t)
    (hend : t.kind = .endOfInput) :
    ∃ ws, Takes (ofText text) ws (finish t.position) ∧ Derives env .or ws e := by
  obtain ⟨ws, hws, hd⟩ := (sound env (areProper_ofChars 0 text.toList)).or e rest hp
  rcases head_eq_ok ht with ⟨position, rfl, rfl⟩ | ⟨r, rfl⟩
  · exact ⟨ws, hws, hd⟩
  · -- no token of a text has the kind of the end
    have hproper := (areProper_ofChars 0 text.toList).rest hws t.word (by simp)
    unfold Word.IsProper at hproper
    rw [show t.word.kind = .endOfInput from hend] at hproper
    exact hproper.elim

/-- A text that is parsed has no fault, and the tree is that of a derivation of its words. -/
theorem Expr.derives_of_parse {env : Surroundings} {text : String} {e : Expr}
    (h : Expr.parse env text = .ok e) :
    (ofText text).IsComplete ∧ Derives env .or (ofText text).words e := by
  simp only [Expr.parse_eq, Except.bind_eq_ok] at h
  obtain ⟨⟨e', rest⟩, hp, t, ht, h⟩ := h
  split at h
  · next hend =>
    obtain rfl : e' = e := Except.ok.inj h
    obtain ⟨ws, hws, hd⟩ := Parser.takes_of_end hp ht hend
    rw [hws.words, words_finish, List.append_nil]
    exact ⟨hws.isComplete_iff.2 (isComplete_finish t.position), hd⟩
  · exact absurd h (by simp)

/-- A text without a fault whose words derive is parsed. -/
theorem Expr.parse_of_derives {env : Surroundings} {text : String} {e : Expr}
    (hc : (ofText text).IsComplete) (hd : Derives env .or (ofText text).words e) :
    Expr.parse env text = .ok e := by
  obtain ⟨position, hws⟩ := takes_words hc
  rw [Expr.parse_eq, parseOr_complete hd hws]
  rfl

/-- **The parser accepts exactly the texts whose words derive, and answers the tree of the
derivation.** -/
theorem Expr.parse_eq_ok_iff (env : Surroundings) (text : String) (e : Expr) :
    Expr.parse env text = .ok e ↔
      (ofText text).IsComplete ∧ Derives env .or (ofText text).words e := by
  constructor
  · exact Expr.derives_of_parse
  · rintro ⟨hc, hd⟩
    exact Expr.parse_of_derives hc hd

/-- **Words have one tree at most.** -/
theorem Derives.unique {env : Surroundings} {ws : List Word} {a b : Expr}
    (ha : Derives env .or ws a) (hb : Derives env .or ws b) : a = b := by
  -- the words themselves as tokens, all at one place
  have htokens : ∀ ws : List Word, ∃ ts, Takes ts ws (finish 0) := by
    intro ws
    induction ws with
    | nil => exact ⟨_, .none⟩
    | cons w ws ih =>
      obtain ⟨ts, hts⟩ := ih
      have hmore : Takes (token ⟨w.kind, String.ofList w.text, 0⟩ ts)
          (Token.word ⟨w.kind, String.ofList w.text, 0⟩ :: ws) (finish 0) := .more hts
      rw [Token.word, String.toList_ofList] at hmore
      exact ⟨_, hmore⟩
  obtain ⟨ts, hts⟩ := htokens ws
  have h := (parseOr_complete ha hts).symm.trans (parseOr_complete hb hts)
  exact congrArg Prod.fst (Except.ok.inj h)

end LogFilter
