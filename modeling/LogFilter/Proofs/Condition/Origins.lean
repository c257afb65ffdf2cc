import LogFilter.Proofs.Condition.Completeness
import LogFilter.Proofs.Method.Resolution

/-!
# Where errors arise

Every error of the parser is about one of the tokens it was given: it says what stands there, or
what cannot be made of it (`ParseError.ArisesAt`). The parser gets to a token through words that
derive, so the proof goes the way of soundness: one lemma for each level that uses the tighter level
on the same tokens and all levels on later ones, and an induction on the number of tokens.
-/

namespace LogFilter

/-- A resolver has no method for a name and a number of arguments, and says why. -/
def Refuses (resolve : Resolver) (name : String) (count : Nat) (cause : ResolveError) : Prop :=
  resolve name count = .error cause ∨
    resolve name count = .ok none ∧ cause = .unknownMethod name

/-- An error says what is wrong with the first of some tokens. That a name is bound to nothing comes
up after the arguments, so that error may arise at any token. -/
inductive ParseError.ArisesAt (env : Surroundings) : Tokens → ParseError → Prop
  | lexical {fault : LexicalFault} {position : Nat} :
      ArisesAt env (.failure fault position) (.lexical fault position)
  | expected {ts : Tokens} {t : Token} {kind : TokenKind} (h : ts.head = .ok t)
      (hk : t.kind ≠ kind) : ArisesAt env ts (.expectedToken kind t.kind t.text t.position)
  | unexpected {ts : Tokens} {t : Token} (h : ts.head = .ok t) :
      ArisesAt env ts (.unexpectedToken t.text t.position)
  | identifier {ts : Tokens} {t : Token} (h : ts.head = .ok t) (hk : t.kind ≠ .keyword) :
      ArisesAt env ts (.identifierExpected t.position)
  | number {ts : Tokens} {t : Token} (h : ts.head = .ok t) (hk : t.kind ≠ .number) :
      ArisesAt env ts (.numberExpected t.kind)
  | invalidNumber {t : Token} {rest : Tokens} (hk : t.kind = .number) :
      ArisesAt env (.token t rest) (.invalidNumber t.text)
  | unknownLevel {t : Token} {rest : Tokens} (hk : t.kind = .keyword)
      (h : Level.ofName? t.text = none) : ArisesAt env (.token t rest) (.unknownLevel t.text)
  | layout {t : Token} {rest : Tokens} {cause : LayoutError} (hk : t.kind = .string)
      (h : env.compile t.stringValue = .error cause) :
      ArisesAt env (.token t rest) (.layout t.stringValue cause)
  | unresolved {ts : Tokens} {name : String} {count : Nat} {cause : ResolveError}
      (h : Refuses env.resolve name count cause) : ArisesAt env ts (.unresolved name cause)

namespace Parser

open Tokens

variable {env : Surroundings} {ts : Tokens} {α β : Type}

/-! ## Errors of single steps -/

theorem bind_eq_error {resolve : Resolver} {name : String} {arguments : List Expr}
    {error : ParseError} :
    Parser.bind resolve name arguments = .error error ↔
      ∃ cause, Refuses resolve name arguments.length cause ∧ error = .unresolved name cause := by
  unfold Parser.bind Refuses
  cases resolve name arguments.length with
  | error => simp [eq_comm]
  | ok m => cases m <;> simp [eq_comm]

theorem numberLiteral_eq_error {negative : Bool} {text : String} {error : ParseError}
    (h : numberLiteral negative text = .error error) : error = .invalidNumber text := by
  simp only [numberLiteral] at h
  split at h <;> split at h
  · exact absurd h (by simp)
  · exact (Except.error.inj h).symm
  · exact absurd h (by simp)
  · exact (Except.error.inj h).symm

theorem stringLiteral_eq_error {compile : LayoutCompiler} {template : String} {error : ParseError} :
    stringLiteral compile template = .error error ↔
      ∃ cause, compile template = .error cause ∧ error = .layout template cause := by
  unfold stringLiteral
  cases compile template with
  | error => simp [eq_comm]
  | ok l => cases hf : l.fixedText? <;> simp [hf]

/-! ## Answers with errors of this kind only -/

/-- Every error that is answered arises at one of these tokens. -/
def Blames (env : Surroundings) (ts : Tokens) (answer : Except ParseError α) : Prop :=
  ∀ error, answer = .error error → ∃ ws rest, Takes ts ws rest ∧ error.ArisesAt env rest

theorem blames_ok (a : α) : Blames env ts (.ok a : Except ParseError α) :=
  fun _ h => absurd h (by simp)

/-- The error is about the first token. -/
theorem blames_error {error : ParseError} (h : error.ArisesAt env ts) :
    Blames env ts (.error error : Except ParseError α) := by
  rintro _ ⟨⟩
  exact ⟨[], ts, .none, h⟩

theorem Blames.bind {x : Except ParseError α} {f : α → Except ParseError β} (hx : Blames env ts x)
    (hf : ∀ a, x = .ok a → Blames env ts (f a)) : Blames env ts (x >>= f) := by
  intro error h
  cases x with
  | error e => exact hx error (congrArg _ (Except.error.inj h))
  | ok a => exact hf a rfl error h

/-- An error about later tokens is about these tokens, too. -/
theorem Blames.later {rest : Tokens} {ws : List Word} {x : Except ParseError α}
    (h : Blames env rest x) (ht : Takes ts ws rest) : Blames env ts x := by
  intro error herror
  obtain ⟨vs, last, htake, harises⟩ := h error herror
  exact ⟨ws ++ vs, last, ht.append htake, harises⟩

theorem blames_head (ts : Tokens) : Blames env ts ts.head := by
  cases ts with
  | token => exact blames_ok _
  | finish => exact blames_ok _
  | failure => exact blames_error .lexical

theorem blames_tail {t : Token} {rest : Tokens} :
    Blames env (token t rest) (token t rest).tail := by
  cases rest with
  | token => exact blames_ok _
  | finish => exact blames_ok _
  | failure => exact (blames_error .lexical).later .one

/-- A token of a kind other than that of the end is one of the tokens. -/
theorem exists_token_of_head {t : Token} (h : ts.head = .ok t) (hk : t.kind ≠ .endOfInput) :
    ∃ rest, ts = token t rest := by
  rcases head_eq_ok h with ⟨_, _, rfl⟩ | hrest
  · exact absurd rfl hk
  · exact hrest

theorem blames_after {kind : TokenKind} (hk : kind ≠ .endOfInput) (ts : Tokens) :
    Blames env ts (ts.after kind) := by
  rw [after_eq]
  refine (blames_head ts).bind fun t ht => ?_
  split
  · next hkind =>
    obtain ⟨rest, rfl⟩ := exists_token_of_head ht (hkind ▸ hk)
    exact blames_tail
  · next hkind => exact blames_error (.expected ht hkind)

theorem blames_keyword (ts : Tokens) : Blames env ts ts.keyword := by
  rw [keyword_eq]
  refine (blames_head ts).bind fun t ht => ?_
  split
  · next hk =>
    obtain ⟨rest, rfl⟩ := exists_token_of_head ht (by simp [hk])
    intro error herror
    exact blames_tail error (Except.map_eq_error.1 herror)
  · next hk => exact blames_error (.identifier ht hk)

/-- All answers for the same tokens blame one of them. -/
structure AllBlame (env : Surroundings) (ts : Tokens) : Prop where
  or : Blames env ts (answer (parseOr env ts))
  and : Blames env ts (answer (parseAnd env ts))
  not : Blames env ts (answer (parseNot env ts))
  relation : Blames env ts (answer (parseRelation env ts))
  operand : Blames env ts (answer (parseOperand env ts))
  arguments : Blames env ts (answer (parseArguments env ts))

/-- All answers for fewer tokens do. -/
def AllBlameBelow (env : Surroundings) (n : Nat) : Prop :=
  ∀ ts : Tokens, ts.size < n → ts.AreProper → AllBlame env ts

/-! ## Operands -/

theorem parseNumber_blames {negative : Bool} {t : Token} {rest : Tokens} (hk : t.kind = .number) :
    Blames env (token t rest) (answer (parseNumber negative (token t rest))) := by
  rw [answer_parseNumber]
  refine (blames_head _).bind fun u hu => blames_tail.bind fun r _ => Blames.bind ?_ ?_
  · obtain rfl : t = u := Except.ok.inj hu
    intro error herror
    obtain rfl := numberLiteral_eq_error herror
    exact ⟨[], _, .none, .invalidNumber hk⟩
  · exact fun e _ => blames_ok _

theorem parseString_blames {t : Token} {rest : Tokens} (hk : t.kind = .string) :
    Blames env (token t rest) (answer (parseString env.compile (token t rest))) := by
  rw [answer_parseString]
  refine (blames_head _).bind fun u hu => blames_tail.bind fun r _ => Blames.bind ?_ ?_
  · obtain rfl : t = u := Except.ok.inj hu
    intro error herror
    obtain ⟨cause, hcause, rfl⟩ := stringLiteral_eq_error.1 herror
    exact ⟨[], _, .none, .layout hk hcause⟩
  · exact fun e _ => blames_ok _

theorem parseLevel_blames (ts : Tokens) : Blames env ts (answer (parseLevel ts)) := by
  rw [answer_parseLevel]
  refine (blames_after (by decide) ts).bind fun d hd => ?_
  obtain ⟨dot, rfl, _⟩ := after_eq_ok hd
  refine Blames.later ((blames_keyword d).bind fun ⟨name, r⟩ hname => ?_) .one
  obtain ⟨t, rfl, hk, rfl⟩ := keyword_eq_ok hname
  cases hlevel : Level.ofName? t.text with
  | none => exact blames_error (.unknownLevel hk hlevel)
  | some level => exact blames_ok _

theorem callOperand_blames {name : String} (hs : Sound env ts) (h : AllBlame env ts) :
    Blames env ts (callOperand env name ts) := by
  unfold callOperand
  refine h.arguments.bind fun ⟨es, mid⟩ hes => ?_
  obtain ⟨args, ws, hws, _, _, rfl⟩ := hs.arguments es mid hes
  refine Blames.later ((blames_after (by decide) mid).bind fun c _ => Blames.bind ?_ ?_) hws
  · intro error herror
    obtain ⟨cause, hcause, rfl⟩ := bind_eq_error.1 herror
    exact ⟨[], mid, .none, .unresolved hcause⟩
  · exact fun e _ => blames_ok _

/-- The tokens after a keyword; what is said about the keyword itself is said about the tokens that
start with it. -/
theorem keywordOperand_blames {t : Token} (hp : ts.AreProper) (ih : AllBlameBelow env ts.size) :
    Blames env (token t ts) (keywordOperand env t ts) := by
  unfold keywordOperand
  split
  · exact blames_ok _
  split
  · exact (parseLevel_blames ts).later .one
  split
  · next ho =>
    obtain ⟨opening, o, rfl, _⟩ := startsWith_iff.1 ho
    refine Blames.later (blames_tail.bind fun o' ho' => ?_) .one
    obtain rfl := tail_token_eq_ok ho'
    have hpo : o.AreProper := hp.rest .one
    exact (callOperand_blames (sound env hpo) (ih o (Nat.lt_succ_self _) hpo)).later .one
  · exact blames_error (.unexpected rfl)

theorem parseOperand_blames (hp : ts.AreProper) (ih : AllBlameBelow env ts.size) :
    Blames env ts (answer (parseOperand env ts)) := by
  rw [answer_parseOperand]
  refine (blames_head ts).bind fun t ht => ?_
  rcases head_eq_ok ht with ⟨position, rfl, rfl⟩ | ⟨r, rfl⟩
  · exact blames_error (.unexpected rfl)
  have hpr : r.AreProper := hp.rest .one
  have hr : r.size < (token t r).size := Nat.lt_succ_self _
  split
  · -- an expression in parentheses
    refine blames_tail.bind fun r' hr' => ?_
    obtain rfl := tail_token_eq_ok hr'
    refine Blames.later ((ih r hr hpr).or.bind fun p hinner => ?_) .one
    obtain ⟨ws, hws, _⟩ := (sound env hpr).or p.1 p.2 hinner
    exact Blames.later ((blames_after (by decide) p.2).bind fun c _ => blames_ok _) hws
  · -- a negative number
    refine blames_tail.bind fun r' hr' => ?_
    obtain rfl := tail_token_eq_ok hr'
    refine Blames.later ((blames_head r).bind fun digits hdigits => ?_) .one
    split
    · next hk =>
      obtain ⟨rest, rfl⟩ := exists_token_of_head hdigits (by simp [hk])
      exact parseNumber_blames hk
    · next hk => exact blames_error (.number hdigits hk)
  · next hk => exact parseNumber_blames hk
  · next hk => exact parseString_blames hk
  · refine blames_tail.bind fun r' hr' => ?_
    obtain rfl := tail_token_eq_ok hr'
    exact keywordOperand_blames hpr fun s hs => ih s (Nat.lt_trans hs hr)
  · exact blames_error (.unexpected rfl)

/-! ## Comparisons, denials and loops -/

theorem parseRelation_blames (hp : ts.AreProper) (ih : AllBlameBelow env ts.size)
    (ho : Blames env ts (answer (parseOperand env ts))) :
    Blames env ts (answer (parseRelation env ts)) := by
  rw [answer_parseRelation]
  refine ho.bind fun ⟨left, mid⟩ hl => ?_
  obtain ⟨ws, hws, _⟩ := (sound env hp).operand left mid hl
  refine Blames.later ((blames_head mid).bind fun t ht => ?_) hws
  cases hrel : t.kind.relation? with
  | none => exact blames_ok _
  | some relation =>
    obtain ⟨r, rfl⟩ := exists_token_of_head ht fun hk => by simp [hk, TokenKind.relation?] at hrel
    refine blames_tail.bind fun r' hr' => ?_
    obtain rfl := tail_token_eq_ok hr'
    have hsize : r.size < ts.size := Nat.lt_trans (Nat.lt_succ_self _) (answer_fewer hl)
    have hright := (ih r hsize ((hp.rest hws).rest .one)).operand
    exact Blames.later (hright.bind fun p _ => blames_ok _) .one

theorem parseNot_blames (hp : ts.AreProper) (ih : AllBlameBelow env ts.size)
    (hr : Blames env ts (answer (parseRelation env ts))) :
    Blames env ts (answer (parseNot env ts)) := by
  rw [answer_parseNot]
  split
  · next hstart =>
    obtain ⟨t, r, rfl, _⟩ := startsWithOperator_iff.1 hstart
    refine blames_tail.bind fun r' hr' => ?_
    obtain rfl := tail_token_eq_ok hr'
    have hinner := (ih r (Nat.lt_succ_self _) (hp.rest .one)).not
    exact Blames.later (hinner.bind fun p _ => blames_ok _) .one
  · exact hr

section

variable {sign : TokenKind} {name : String} {inner : Production} {join : Expr → Expr → Expr}
  {next : Tokens → Except ParseError (Expr × Tokens)}
  {more : Expr → Tokens → Except ParseError (Expr × Tokens)}

theorem loop_blames
    (hmore : ∀ left ts, more left ts =
      if ts.startsWithWord name || ts.startsWith sign then do
        let r ← ts.tail
        let p ← next r
        more (join left p.1) p.2
      else .ok (left, ts))
    (hfewer : ∀ {r rest : Tokens} {e : Expr}, next r = .ok (e, rest) → rest.size < r.size)
    {ts : Tokens} (hnext : ∀ r : Tokens, r.size < ts.size → r.AreProper →
      Blames env r (next r) ∧ SoundFor env inner r (next r))
    (hp : ts.AreProper) (left : Expr) : Blames env ts (more left ts) := by
  -- each round takes an operator and the words of an operand, and leaves fewer tokens
  induction hn : ts.size using Nat.strongRecOn generalizing ts left with
  | ind n ih =>
    subst hn
    rw [hmore]
    split
    · next hstart =>
      obtain ⟨t, r, rfl, _⟩ := startsWithOperator_iff.1 hstart
      refine blames_tail.bind fun r' hr' => ?_
      obtain rfl := tail_token_eq_ok hr'
      have hsize : r.size < (token t r).size := Nat.lt_succ_self _
      have hpr : r.AreProper := hp.rest .one
      obtain ⟨hblames, hsound⟩ := hnext r hsize hpr
      refine Blames.later (hblames.bind fun ⟨right, mid⟩ hright => ?_) .one
      have hmid : mid.size < (token t r).size := Nat.lt_trans (hfewer hright) hsize
      obtain ⟨ws, hws, _⟩ := hsound right mid hright
      exact (ih mid.size hmid (fun s hs => hnext s (Nat.lt_trans hs hmid)) (hpr.rest hws)
        _ rfl).later hws
    · exact blames_ok _

end

theorem parseAnd_blames (hp : ts.AreProper) (ih : AllBlameBelow env ts.size)
    (hn : Blames env ts (answer (parseNot env ts))) :
    Blames env ts (answer (parseAnd env ts)) := by
  rw [answer_parseAnd]
  refine hn.bind fun ⟨left, mid⟩ hl => ?_
  obtain ⟨ws, hws, _⟩ := (sound env hp).not left mid hl
  have hnext : ∀ r : Tokens, r.size < mid.size → r.AreProper →
      Blames env r (answer (parseNot env r)) ∧ SoundFor env .not r (answer (parseNot env r)) :=
    fun r hr hpr => ⟨(ih r (Nat.lt_trans hr (answer_fewer hl)) hpr).not, (sound env hpr).not⟩
  exact (loop_blames (answer_moreAnd env) answer_fewer hnext (hp.rest hws) left).later hws

theorem parseOr_blames (hp : ts.AreProper) (ih : AllBlameBelow env ts.size)
    (ha : Blames env ts (answer (parseAnd env ts))) :
    Blames env ts (answer (parseOr env ts)) := by
  rw [answer_parseOr]
  refine ha.bind fun ⟨left, mid⟩ hl => ?_
  obtain ⟨ws, hws, _⟩ := (sound env hp).and left mid hl
  have hnext : ∀ r : Tokens, r.size < mid.size → r.AreProper →
      Blames env r (answer (parseAnd env r)) ∧ SoundFor env .and r (answer (parseAnd env r)) :=
    fun r hr hpr => ⟨(ih r (Nat.lt_trans hr (answer_fewer hl)) hpr).and, (sound env hpr).and⟩
  exact (loop_blames (answer_moreOr env) answer_fewer hnext (hp.rest hws) left).later hws

theorem parseArguments_blames (hp : ts.AreProper) (ih : AllBlameBelow env ts.size)
    (ho : Blames env ts (answer (parseOr env ts))) :
    Blames env ts (answer (parseArguments env ts)) := by
  rw [answer_parseArguments]
  refine (blames_head ts).bind fun t _ => ?_
  split
  · exact blames_ok _
  refine ho.bind fun ⟨first, mid⟩ hfirst => ?_
  obtain ⟨ws, hws, _⟩ := (sound env hp).or first mid hfirst
  refine Blames.later ?_ hws
  simp only
  split
  · next hcomma =>
    obtain ⟨comma, r, rfl, _⟩ := startsWith_iff.1 hcomma
    refine blames_tail.bind fun r' hr' => ?_
    obtain rfl := tail_token_eq_ok hr'
    have hsize : r.size < ts.size := Nat.lt_trans (Nat.lt_succ_self _) (answer_fewer hfirst)
    have hlater := (ih r hsize ((hp.rest hws).rest .one)).arguments
    exact Blames.later (hlater.bind fun q _ => blames_ok _) .one
  · exact blames_ok _

/-! ## All levels together -/

/-- **Whatever error a function of the parser answers arises at one of the tokens.** -/
theorem allBlame (env : Surroundings) {ts : Tokens} (hp : ts.AreProper) : AllBlame env ts := by
  induction hn : ts.size using Nat.strongRecOn generalizing ts with
  | ind n ih =>
    subst hn
    have below : AllBlameBelow env ts.size := fun r hr hpr => ih r.size hr hpr rfl
    have operand := parseOperand_blames hp below
    have relation := parseRelation_blames hp below operand
    have not := parseNot_blames hp below relation
    have and := parseAnd_blames hp below not
    have or := parseOr_blames hp below and
    exact ⟨or, and, not, relation, operand, parseArguments_blames hp below or⟩

end Parser

/-- **An error of a text arises at one of its tokens.** -/
theorem Expr.arises_of_parse {env : Surroundings} {text : String} {error : ParseError}
    (h : Expr.parse env text = .error error) :
    ∃ ws rest, Tokens.Takes (Tokens.ofText text) ws rest ∧ error.ArisesAt env rest := by
  have hp : (Tokens.ofText text).AreProper := Tokens.areProper_ofChars 0 text.toList
  suffices hblames : Parser.Blames env (Tokens.ofText text) (Expr.parse env text) from
    hblames error h
  rw [Expr.parse_eq]
  refine (Parser.allBlame env hp).or.bind fun ⟨e, rest⟩ hok => ?_
  obtain ⟨ws, hws, _⟩ := (Parser.sound env hp).or e rest hok
  refine Parser.Blames.later ((Parser.blames_head rest).bind fun t ht => ?_) hws
  split
  · exact Parser.blames_ok _
  · exact Parser.blames_error (.unexpected ht)

/-- With the standard methods there is an answer to every text. -/
theorem Expr.parse_standard_ne_panic (text name : String) :
    Expr.parse .standard text ≠ .error (.unresolved name .panic) := by
  intro h
  obtain ⟨_, _, _, harises⟩ := Expr.arises_of_parse h
  cases harises with
  | unresolved hrefuses =>
    rcases hrefuses with hpanic | ⟨_, hunknown⟩
    · exact Registry.standard_resolve_ne_panic _ _ hpanic
    · exact absurd hunknown (by simp)

end LogFilter
