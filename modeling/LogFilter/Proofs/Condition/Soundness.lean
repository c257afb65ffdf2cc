import LogFilter.Except
import LogFilter.Proofs.Condition.Operands
import LogFilter.Proofs.Condition.Steps

/-!
# What is parsed derives

Each function of the parser takes words that derive from its production, and answers the tree of
the derivation. The functions call each other on later tokens and, one level tighter, on the same
tokens. So there is one lemma for each level that uses the tighter level on the same tokens and all
levels on later ones, and an induction on the number of tokens ties them together.

`or` and `and` are loops of one form and share their lemma, `loop_sound`.
-/

namespace LogFilter

namespace Parser

open Tokens

/-- What an answer says about the tokens that were taken derives from a production. -/
def SoundFor (env : Surroundings) (production : Production) (ts : Tokens)
    (answer : Except ParseError (Expr × Tokens)) : Prop :=
  ∀ e rest, answer = .ok (e, rest) → ∃ ws, Takes ts ws rest ∧ Derives env production ws e

/-- All answers for the same tokens are sound. -/
structure Sound (env : Surroundings) (ts : Tokens) : Prop where
  or : SoundFor env .or ts (answer (parseOr env ts))
  and : SoundFor env .and ts (answer (parseAnd env ts))
  not : SoundFor env .not ts (answer (parseNot env ts))
  relation : SoundFor env .relation ts (answer (parseRelation env ts))
  operand : SoundFor env .operand ts (answer (parseOperand env ts))
  arguments : ∀ es rest, answer (parseArguments env ts) = .ok (es, rest) →
    ∃ (args : List (List Word × Expr)) (ws : List Word), Takes ts ws rest ∧
      Separated (args.map Prod.fst) ws ∧ (∀ p ∈ args, Derives env .or p.1 p.2) ∧
      args.map Prod.snd = es

/-- All answers for fewer tokens are sound. -/
def SoundBelow (env : Surroundings) (n : Nat) : Prop :=
  ∀ ts : Tokens, ts.size < n → ts.AreProper → Sound env ts

variable {env : Surroundings} {ts : Tokens}

theorem head_eq_ok {t : Token} (h : ts.head = .ok t) :
    (∃ position, ts = finish position ∧ t = endToken position) ∨ ∃ r, ts = token t r := by
  cases ts with
  | token u r => exact Or.inr ⟨r, by rw [Except.ok.inj h]⟩
  | finish position => exact Or.inl ⟨position, rfl, (Except.ok.inj h).symm⟩
  | failure => exact absurd h (by simp [head])

theorem tail_token_eq_ok {t : Token} {r rest : Tokens} (h : (token t r).tail = .ok rest) :
    r = rest := by
  obtain ⟨u, hu⟩ := tail_eq_ok h
  injection hu

/-! ## Operands -/

theorem parseNumber_sound {negative : Bool} {e : Expr} {rest : Tokens} (hp : ts.AreProper)
    (hk : ts.StartsWith fun w => w.kind = .number)
    (h : answer (parseNumber negative ts) = .ok (e, rest)) :
    ∃ (w : Word) (v : Value), Takes ts [w] rest ∧ w.kind = .number ∧ e = .literal v ∧
      Denotes negative w.text v := by
  obtain ⟨t, r, rfl, hk⟩ := hk
  simp only [answer_parseNumber, Except.bind_eq_ok] at h
  obtain ⟨u, hu, r', hr, e', he, h⟩ := h
  obtain rfl : t = u := Except.ok.inj hu
  obtain rfl := tail_token_eq_ok hr
  obtain ⟨rfl, rfl⟩ : e' = e ∧ r = rest := by simpa using h
  have hnum : IsNumeral t.word.text := by
    have := hp t.word (by simp)
    unfold Word.IsProper at this
    rwa [hk] at this
  have htext : t.text = String.ofList t.word.text := by simp [Token.word]
  rw [htext] at he
  obtain ⟨v, hv, hd⟩ := (numberLiteral_eq_ok hnum).1 he
  exact ⟨t.word, v, .one, hk, hv, hd⟩

theorem parseString_sound {e : Expr} {rest : Tokens} (hp : ts.AreProper)
    (hk : ts.StartsWith fun w => w.kind = .string)
    (h : answer (parseString env.compile ts) = .ok (e, rest)) :
    ∃ ws, Takes ts ws rest ∧ Derives env .operand ws e := by
  obtain ⟨t, r, rfl, hk⟩ := hk
  simp only [answer_parseString, Except.bind_eq_ok] at h
  obtain ⟨u, hu, r', hr, e', he, h⟩ := h
  obtain rfl : t = u := Except.ok.inj hu
  obtain rfl := tail_token_eq_ok hr
  obtain ⟨rfl, rfl⟩ : e' = e ∧ r = rest := by simpa using h
  obtain ⟨s, hs⟩ : ∃ s, t.word.text = quotedText s := by
    have := hp t.word (by simp)
    unfold Word.IsProper at this
    rwa [hk] at this
  rw [Token.stringValue_of_quoted hs] at he
  exact ⟨_, .one, .string hk hs (stringLiteral_eq_ok.1 he)⟩

theorem parseLevel_sound {e : Expr} {rest : Tokens}
    (h : answer (parseLevel ts) = .ok (e, rest)) :
    ∃ (dot name : Word) (level : Level), Takes ts [dot, name] rest ∧ dot.kind = .dot ∧
      name.Says level.name ∧ e = .literal (.level level) := by
  simp only [answer_parseLevel, Except.bind_eq_ok] at h
  obtain ⟨d, hd, ⟨name, r⟩, hn, h⟩ := h
  obtain ⟨dot, rfl, hdot⟩ := after_eq_ok hd
  obtain ⟨t, rfl, hk, rfl⟩ := keyword_eq_ok hn
  simp only at h
  split at h
  · next level hl =>
    obtain ⟨rfl, rfl⟩ : Expr.literal (.level level) = e ∧ r = rest := by simpa using h
    exact ⟨dot.word, t.word, level, .more .one, hdot, ⟨hk, Level.ofName?_eq_some.1 hl⟩, rfl⟩
  · exact absurd h (by simp)

/-- A keyword that is not fixed, and does not announce a level, is not reserved. -/
theorem not_reserved {w : Word} (hf : fixedWord? (String.ofList (w.text.map Char.toLower)) = none)
    (hl : String.ofList (w.text.map Char.toLower) ≠ "loglevel") :
    ∀ reserved ∈ reservedWords, ¬w.Says reserved := by
  intro name hname hw
  have hlower := ((Word.says_iff (reservedWords_lower hname)).1 hw).2
  rcases List.mem_cons.1 hname with rfl | hfixed
  · exact hl hlower
  · exact fixedWord?_eq_none.1 hf (hlower ▸ hfixed)

/-- A name in front of an opening parenthesis is the name of a call. -/
theorem callOperand_sound {t : Token} (hk : t.kind = .keyword)
    (hr : ∀ reserved ∈ reservedWords, ¬t.word.Says reserved) (hs : Sound env ts) {e : Expr}
    {rest : Tokens} (h : callOperand env t.text ts = .ok (e, rest)) :
    ∃ ws, Takes ts ws rest ∧ ∀ opening : Word, opening.kind = .leftParen →
      Derives env .operand (t.word :: opening :: ws) e := by
  simp only [callOperand, Except.bind_eq_ok] at h
  obtain ⟨⟨es, mid⟩, hes, c, hc, e', he', h⟩ := h
  obtain ⟨closing, rfl, hck⟩ := after_eq_ok hc
  obtain ⟨rfl, rfl⟩ : e' = e ∧ c = rest := by simpa using h
  obtain ⟨args, ws, hws, hsep, hargs, rfl⟩ := hs.arguments es _ hes
  obtain ⟨method, hm, rfl⟩ := bind_eq_ok.1 he'
  have htext : t.text = String.ofList t.word.text := by simp [Token.word]
  rw [List.length_map, htext] at hm
  rw [htext]
  exact ⟨_, hws.append .one, fun opening ho => .call hk hr ho hsep hargs hck hm⟩

/-- What a keyword starts is an operand. -/
theorem keywordOperand_sound {t : Token} (hk : t.kind = .keyword) (hp : ts.AreProper)
    (ih : SoundBelow env ts.size) {e : Expr} {rest : Tokens}
    (h : keywordOperand env t ts = .ok (e, rest)) :
    ∃ ws, Takes ts ws rest ∧ Derives env .operand (t.word :: ws) e := by
  unfold keywordOperand at h
  split at h
  · next e' he' =>
    obtain ⟨rfl, rfl⟩ : e' = e ∧ ts = rest := by simpa using h
    have hmem := fixedWord?_eq_some.1 he'
    refine ⟨[], .none, .word ((Word.says_iff ?_).2 ⟨hk, rfl⟩) hmem⟩
    exact reservedWords_lower (mem_reservedWords_of_mem_fixedWords hmem)
  · next hf =>
    split at h
    · next hl =>
      obtain ⟨dot, name, level, hw, hdk, hn, rfl⟩ := parseLevel_sound h
      exact ⟨_, hw, .level ((Word.says_iff (by decide)).2 ⟨hk, hl⟩) hdk hn⟩
    split at h
    · next hl ho =>
      obtain ⟨opening, o, rfl, hok⟩ := startsWith_iff.1 ho
      rw [Except.bind_eq_ok] at h
      obtain ⟨o', ho', h⟩ := h
      obtain rfl := tail_token_eq_ok ho'
      have hs : Sound env o := ih o (Nat.lt_succ_self _) (hp.rest .one)
      obtain ⟨ws, hws, hd⟩ := callOperand_sound hk (not_reserved hf hl) hs h
      exact ⟨_, .more hws, hd opening.word hok⟩
    · exact absurd h (by simp)

theorem SoundBelow.mono {m n : Nat} (h : SoundBelow env n) (hmn : m ≤ n) : SoundBelow env m :=
  fun ts hts => h ts (Nat.lt_of_lt_of_le hts hmn)

theorem parseOperand_sound (hp : ts.AreProper) (ih : SoundBelow env ts.size) :
    SoundFor env .operand ts (answer (parseOperand env ts)) := by
  intro e rest h
  rw [answer_parseOperand, Except.bind_eq_ok] at h
  obtain ⟨t, ht, h⟩ := h
  rcases head_eq_ok ht with ⟨position, rfl, rfl⟩ | ⟨r, rfl⟩
  · exact absurd h (by simp [endToken])
  have hpr : r.AreProper := hp.rest .one
  have hr : r.size < (token t r).size := Nat.lt_succ_self _
  split at h
  · -- an expression in parentheses
    next hk =>
    simp only [Except.bind_eq_ok] at h
    obtain ⟨r', hr', ⟨inner, mid⟩, hi, c, hc, h⟩ := h
    obtain rfl := tail_token_eq_ok hr'
    obtain ⟨closing, rfl, hck⟩ := after_eq_ok hc
    obtain ⟨rfl, rfl⟩ : inner = e ∧ c = rest := by simpa using h
    obtain ⟨ws, hws, hd⟩ := (ih r hr hpr).or inner _ hi
    exact ⟨_, .more (hws.append .one), .parens hk hd hck⟩
  · -- a negative number
    next hk =>
    simp only [Except.bind_eq_ok] at h
    obtain ⟨r', hr', u, hu, h⟩ := h
    obtain rfl := tail_token_eq_ok hr'
    split at h
    · next huk =>
      have hstart : r.StartsWith fun w => w.kind = .number := by
        rcases head_eq_ok hu with ⟨position, rfl, rfl⟩ | ⟨r', rfl⟩
        · exact absurd huk (by simp [endToken])
        · exact startsWith_token.2 huk
      obtain ⟨w, v, hw, hwk, rfl, hv⟩ := parseNumber_sound hpr hstart h
      exact ⟨_, .more hw, .negative hk hwk hv⟩
    · exact absurd h (by simp)
  · next hk =>
    obtain ⟨w, v, hw, hwk, rfl, hv⟩ := parseNumber_sound hp (startsWith_token.2 hk) h
    exact ⟨_, hw, .number hwk hv⟩
  · next hk => exact parseString_sound hp (startsWith_token.2 hk) h
  · next hk =>
    rw [Except.bind_eq_ok] at h
    obtain ⟨r', hr', h⟩ := h
    obtain rfl := tail_token_eq_ok hr'
    obtain ⟨ws, hws, hd⟩ := keywordOperand_sound hk hpr (ih.mono (Nat.le_of_lt hr)) h
    exact ⟨_, .more hws, hd⟩
  · exact absurd h (by simp)

/-! ## Comparisons and denials -/

theorem parseRelation_sound (hp : ts.AreProper) (ih : SoundBelow env ts.size)
    (ho : SoundFor env .operand ts (answer (parseOperand env ts))) :
    SoundFor env .relation ts (answer (parseRelation env ts)) := by
  intro e rest h
  simp only [answer_parseRelation, Except.bind_eq_ok] at h
  obtain ⟨⟨left, mid⟩, hl, t, ht, h⟩ := h
  obtain ⟨l, hlt, hld⟩ := ho left mid hl
  split at h
  · obtain ⟨rfl, rfl⟩ : left = e ∧ mid = rest := by simpa using h
    exact ⟨l, hlt, .relationOne hld⟩
  · next relation hrel =>
    simp only [Except.bind_eq_ok] at h
    obtain ⟨r, hr, ⟨right, rest'⟩, hright, h⟩ := h
    obtain ⟨rfl, rfl⟩ : Expr.relation relation left right = e ∧ rest' = rest := by simpa using h
    obtain ⟨sign, rfl⟩ := tail_eq_ok hr
    obtain rfl : sign = t := Except.ok.inj ht
    have hsize : r.size < ts.size :=
      Nat.lt_trans (Nat.lt_succ_self _) (answer_fewer hl)
    have hpr : r.AreProper := (hp.rest hlt).rest .one
    obtain ⟨ws, hws, hwd⟩ := (ih r hsize hpr).operand right _ hright
    exact ⟨_, hlt.append (.more hws), .relation hld hrel hwd⟩

theorem parseNot_sound (hp : ts.AreProper) (ih : SoundBelow env ts.size)
    (hr : SoundFor env .relation ts (answer (parseRelation env ts))) :
    SoundFor env .not ts (answer (parseNot env ts)) := by
  intro e rest h
  rw [answer_parseNot] at h
  split at h
  · next hstart =>
    obtain ⟨t, r, rfl, hn⟩ := startsWithOperator_iff.1 hstart
    simp only [Except.bind_eq_ok] at h
    obtain ⟨r', hr', ⟨inner, rest'⟩, hi, h⟩ := h
    obtain rfl := tail_token_eq_ok hr'
    obtain ⟨rfl, rfl⟩ : Expr.not inner = e ∧ rest' = rest := by simpa using h
    obtain ⟨ws, hws, hd⟩ := (ih r (Nat.lt_succ_self _) (hp.rest .one)).not inner _ hi
    exact ⟨_, .more hws, .not hn hd⟩
  · next hn =>
    obtain ⟨ws, hws, hd⟩ := hr e rest h
    refine ⟨ws, hws, .notNone hd fun w hw hnot => hn (startsWithOperator_iff.2 ?_)⟩
    cases hws with
    | none => exact absurd hw (by simp)
    | more =>
      obtain rfl : Token.word _ = w := by simpa using hw
      exact startsWith_token.2 hnot

/-! ## Loops -/

section

variable {sign : TokenKind} {name : String} {inner outer : Production} {join : Expr → Expr → Expr}
  {next : Tokens → Except ParseError (Expr × Tokens)}
  {more : Expr → Tokens → Except ParseError (Expr × Tokens)}

/-- What a loop goes on with joins what was parsed before it from the left. -/
theorem loop_sound
    (hmore : ∀ left ts, more left ts =
      if ts.startsWithWord name || ts.startsWith sign then do
        let r ← ts.tail
        let p ← next r
        more (join left p.1) p.2
      else .ok (left, ts))
    (hjoin : ∀ {l r : List Word} {w : Word} {a b : Expr}, Derives env outer l a →
      w.IsOperator sign name → Derives env inner r b → Derives env outer (l ++ w :: r) (join a b))
    (hfewer : ∀ {r rest : Tokens} {e : Expr}, next r = .ok (e, rest) → rest.size < r.size)
    {ts : Tokens} (hnext : ∀ r : Tokens, r.size < ts.size → r.AreProper →
      SoundFor env inner r (next r))
    {start : Tokens} {l : List Word} {left e : Expr} {rest : Tokens} (hp : ts.AreProper)
    (hl : Takes start l ts) (hd : Derives env outer l left) (h : more left ts = .ok (e, rest)) :
    ∃ ws, Takes start ws rest ∧ Derives env outer ws e := by
  -- each round adds one operand to what was taken, and leaves fewer tokens
  induction hn : ts.size using Nat.strongRecOn generalizing ts l left with
  | ind n ih =>
    subst hn
    rw [hmore] at h
    split at h
    · next hstart =>
      obtain ⟨t, r, rfl, hop⟩ := startsWithOperator_iff.1 hstart
      simp only [Except.bind_eq_ok] at h
      obtain ⟨r', hr', ⟨right, mid⟩, hright, h⟩ := h
      obtain rfl := tail_token_eq_ok hr'
      have hsize : r.size < (token t r).size := Nat.lt_succ_self _
      have hmid : mid.size < (token t r).size := Nat.lt_trans (hfewer hright) hsize
      have hpr : r.AreProper := hp.rest .one
      obtain ⟨ws, hws, hwd⟩ := hnext r hsize hpr right mid hright
      exact ih mid.size hmid (fun r hr => hnext r (Nat.lt_trans hr hmid)) (hpr.rest hws)
        (hl.append (.more hws)) (hjoin hd hop hwd) h rfl
    · obtain ⟨rfl, rfl⟩ : left = e ∧ ts = rest := by simpa using h
      exact ⟨l, hl, hd⟩

end

theorem parseAnd_sound (hp : ts.AreProper) (ih : SoundBelow env ts.size)
    (hn : SoundFor env .not ts (answer (parseNot env ts))) :
    SoundFor env .and ts (answer (parseAnd env ts)) := by
  intro e rest h
  rw [answer_parseAnd, Except.bind_eq_ok] at h
  obtain ⟨⟨left, mid⟩, hl, h⟩ := h
  obtain ⟨l, hlt, hld⟩ := hn left mid hl
  refine loop_sound (answer_moreAnd env) .andMore answer_fewer (fun r hr hpr => ?_)
    (hp.rest hlt) hlt (.andFirst hld) h
  exact (ih r (Nat.lt_trans hr (answer_fewer hl)) hpr).not

theorem parseOr_sound (hp : ts.AreProper) (ih : SoundBelow env ts.size)
    (ha : SoundFor env .and ts (answer (parseAnd env ts))) :
    SoundFor env .or ts (answer (parseOr env ts)) := by
  intro e rest h
  rw [answer_parseOr, Except.bind_eq_ok] at h
  obtain ⟨⟨left, mid⟩, hl, h⟩ := h
  obtain ⟨l, hlt, hld⟩ := ha left mid hl
  refine loop_sound (answer_moreOr env) .orMore answer_fewer (fun r hr hpr => ?_)
    (hp.rest hlt) hlt (.orFirst hld) h
  exact (ih r (Nat.lt_trans hr (answer_fewer hl)) hpr).and

theorem parseArguments_sound (hp : ts.AreProper) (ih : SoundBelow env ts.size)
    (ho : SoundFor env .or ts (answer (parseOr env ts))) {es : List Expr} {rest : Tokens}
    (h : answer (parseArguments env ts) = .ok (es, rest)) :
    ∃ (args : List (List Word × Expr)) (ws : List Word), Takes ts ws rest ∧
      Separated (args.map Prod.fst) ws ∧ (∀ p ∈ args, Derives env .or p.1 p.2) ∧
      args.map Prod.snd = es := by
  rw [answer_parseArguments, Except.bind_eq_ok] at h
  obtain ⟨t, ht, h⟩ := h
  split at h
  · obtain ⟨rfl, rfl⟩ : [] = es ∧ ts = rest := by simpa using h
    exact ⟨[], [], .none, .none, by simp, rfl⟩
  rw [Except.bind_eq_ok] at h
  obtain ⟨⟨first, mid⟩, hfirst, h⟩ := h
  obtain ⟨ws, hws, hwd⟩ := ho first mid hfirst
  simp only at h
  split at h
  · next hcomma =>
    obtain ⟨comma, r, rfl, hck⟩ := startsWith_iff.1 hcomma
    simp only [Except.bind_eq_ok] at h
    obtain ⟨r', hr', ⟨more, rest'⟩, hmore, h⟩ := h
    obtain rfl := tail_token_eq_ok hr'
    obtain ⟨rfl, rfl⟩ : first :: more = es ∧ rest' = rest := by simpa using h
    have hsize : r.size < ts.size :=
      Nat.lt_trans (Nat.lt_succ_self _) (answer_fewer hfirst)
    have hpr : r.AreProper := (hp.rest hws).rest .one
    obtain ⟨args, vs, hvs, hsep, hargs, rfl⟩ := (ih r hsize hpr).arguments more _ hmore
    exact ⟨(ws, first) :: args, _, hws.append (.more hvs), .more hck hsep,
      List.forall_mem_cons.2 ⟨hwd, hargs⟩, rfl⟩
  · obtain ⟨rfl, rfl⟩ : [first] = es ∧ mid = rest := by simpa using h
    exact ⟨[(ws, first)], ws, hws, .last, by simpa using hwd, rfl⟩

/-! ## All levels together -/

/-- **Whatever a function of the parser answers derives from its production.** -/
theorem sound (env : Surroundings) {ts : Tokens} (hp : ts.AreProper) : Sound env ts := by
  induction hn : ts.size using Nat.strongRecOn generalizing ts with
  | ind n ih =>
    subst hn
    have below : SoundBelow env ts.size := fun r hr hpr => ih r.size hr hpr rfl
    have operand := parseOperand_sound hp below
    have relation := parseRelation_sound hp below operand
    have not := parseNot_sound hp below relation
    have and := parseAnd_sound hp below not
    have or := parseOr_sound hp below and
    exact ⟨or, and, not, relation, operand,
      fun es rest h => parseArguments_sound hp below or h⟩

end Parser

end LogFilter
