import LogFilter.Proofs.Condition.Reproduction
import Mathlib.Data.List.Chain

/-!
# Commas after the last argument

Written down as rules of shape alone, the grammar of conditions has calls of the form
`name "(" (or ("," or)*)? ")"`: a comma stands between two arguments, and each comma has an argument
after it. `Sentence Listed` is that grammar, and `Sentence Separated` the same one with a comma
allowed after the last argument too.

The parser accepts such a comma, so not all that it accepts is a sentence of the first grammar. But
these commas are the only exception (`Expr.sentence_of_parse`): without them every accepted text is
a sentence, and with them none is.
-/

namespace LogFilter

/-! ## Sentences -/

/-- Pieces with a comma between each two of them. -/
inductive Listed : List (List Word) → List Word → Prop
  | none : Listed [] []
  | one {ws : List Word} : Listed [ws] ws
  | more {comma : Word} {ws rest piece : List Word} {pieces : List (List Word)}
      (hc : comma.kind = .comma) (h : Listed (piece :: pieces) rest) :
      Listed (ws :: piece :: pieces) (ws ++ comma :: rest)

/-- Words have the shape of a production, whatever they mean. How the arguments of a call stand
together is left to `list`. -/
inductive Sentence (list : List (List Word) → List Word → Prop) : Production → List Word → Prop
  | orFirst {ws : List Word} (h : Sentence list .and ws) : Sentence list .or ws
  | orMore {sign : Word} {l r : List Word} (hl : Sentence list .or l) (hs : sign.IsOr)
      (hr : Sentence list .and r) : Sentence list .or (l ++ sign :: r)
  | andFirst {ws : List Word} (h : Sentence list .not ws) : Sentence list .and ws
  | andMore {sign : Word} {l r : List Word} (hl : Sentence list .and l) (hs : sign.IsAnd)
      (hr : Sentence list .not r) : Sentence list .and (l ++ sign :: r)
  | not {sign : Word} {ws : List Word} (hs : sign.IsNot) (h : Sentence list .not ws) :
      Sentence list .not (sign :: ws)
  | notNone {ws : List Word} (h : Sentence list .relation ws) : Sentence list .not ws
  | relationOne {ws : List Word} (h : Sentence list .operand ws) : Sentence list .relation ws
  | relation {sign : Word} {l r : List Word} {relation : Relation}
      (hl : Sentence list .operand l) (hs : sign.kind.relation? = some relation)
      (hr : Sentence list .operand r) : Sentence list .relation (l ++ sign :: r)
  | parens {opening closing : Word} {ws : List Word} (ho : opening.kind = .leftParen)
      (h : Sentence list .or ws) (hc : closing.kind = .rightParen) :
      Sentence list .operand (opening :: (ws ++ [closing]))
  | number {w : Word} (hw : w.kind = .number) : Sentence list .operand [w]
  | negative {minus w : Word} (hm : minus.kind = .minus) (hw : w.kind = .number) :
      Sentence list .operand [minus, w]
  | string {w : Word} (hw : w.kind = .string) : Sentence list .operand [w]
  | word {w : Word} {name : String} (hw : w.Says name) (h : name ∈ fixedWords.map Prod.fst) :
      Sentence list .operand [w]
  | level {w dot name : Word} (hw : w.Says "loglevel") (hd : dot.kind = .dot)
      (hn : name.kind = .keyword) : Sentence list .operand [w, dot, name]
  | call {name opening closing : Word} {pieces : List (List Word)} {ws : List Word}
      (hn : name.kind = .keyword) (ho : opening.kind = .leftParen) (hs : list pieces ws)
      (h : ∀ piece ∈ pieces, Sentence list .or piece) (hc : closing.kind = .rightParen) :
      Sentence list .operand (name :: opening :: (ws ++ [closing]))

/-- What derives has the shape of its production. -/
theorem Derives.sentence {env : Surroundings} {production : Production} {ws : List Word} {e : Expr}
    (h : Derives env production ws e) : Sentence Separated production ws := by
  induction h with
  | orFirst _ ih => exact .orFirst ih
  | orMore _ hs _ ihl ihr => exact .orMore ihl hs ihr
  | andFirst _ ih => exact .andFirst ih
  | andMore _ hs _ ihl ihr => exact .andMore ihl hs ihr
  | not hs _ ih => exact .not hs ih
  | notNone _ _ ih => exact .notNone ih
  | relationOne _ ih => exact .relationOne ih
  | relation _ hs _ ihl ihr => exact .relation ihl hs ihr
  | parens ho _ hc ih => exact .parens ho ih hc
  | number hw _ => exact .number hw
  | negative hm hw _ => exact .negative hm hw
  | string hw _ _ => exact .string hw
  | word hw hmem => exact .word hw (List.mem_map_of_mem hmem)
  | level hw hd hn => exact .level hw hd hn.1
  | call hn _ ho hs _ hc _ ih =>
    refine .call hn ho hs (fun piece hpiece => ?_) hc
    obtain ⟨p, hp, rfl⟩ := List.mem_map.1 hpiece
    exact ih p hp

/-- The first word of a sentence closes nothing, and its last word is no comma. -/
structure Enclosable (ws : List Word) : Prop where
  first : ∃ w rest, ws = w :: rest ∧ w.kind ≠ .rightParen
  last : ∃ rest w, ws = rest ++ [w] ∧ w.kind ≠ .comma

theorem Enclosable.append {l r : List Word} (hl : Enclosable l) (sign : Word) (hr : Enclosable r) :
    Enclosable (l ++ sign :: r) := by
  obtain ⟨w, l', rfl, hw⟩ := hl.first
  obtain ⟨r', v, rfl, hv⟩ := hr.last
  exact ⟨⟨w, _, rfl, hw⟩, ⟨(w :: l') ++ sign :: r', v, by simp, hv⟩⟩

theorem Enclosable.between {first last : Word} (mid : List Word) (hf : first.kind ≠ .rightParen)
    (hl : last.kind ≠ .comma) : Enclosable (first :: (mid ++ [last])) :=
  ⟨⟨first, _, rfl, hf⟩, ⟨first :: mid, last, rfl, hl⟩⟩

theorem Enclosable.one {w : Word} (hf : w.kind ≠ .rightParen) (hl : w.kind ≠ .comma) :
    Enclosable [w] :=
  ⟨⟨w, [], rfl, hf⟩, ⟨[], w, rfl, hl⟩⟩

theorem Sentence.enclosable {list : List (List Word) → List Word → Prop} {production : Production}
    {ws : List Word} (h : Sentence list production ws) : Enclosable ws := by
  induction h with
  | orFirst _ ih | andFirst _ ih | notNone _ ih | relationOne _ ih => exact ih
  | orMore _ _ _ ihl ihr | andMore _ _ _ ihl ihr | relation _ _ _ ihl ihr =>
    exact ihl.append _ ihr
  | not hs _ ih =>
    obtain ⟨rest, w, rfl, hw⟩ := ih.last
    refine Enclosable.between rest (fun hk => ?_) hw
    rcases hs.kind with h | h <;> exact absurd (hk.symm.trans h) (by decide)
  | parens ho _ hc _ => exact Enclosable.between _ (by simp [ho]) (by simp [hc])
  | number hw | string hw => exact Enclosable.one (by simp [hw]) (by simp [hw])
  | negative hm hw => exact Enclosable.between [] (by simp [hm]) (by simp [hw])
  | word hw _ => exact Enclosable.one (by simp [hw.1]) (by simp [hw.1])
  | level hw _ hn => exact Enclosable.between [_] (by simp [hw.1]) (by simp [hn])
  | call hn _ _ _ hc _ => exact Enclosable.between (_ :: _) (by simp [hn]) (by simp [hc])

theorem Word.IsOperator.kind_ne_comma {sign : TokenKind} {name : String} {w : Word}
    (h : w.IsOperator sign name) (hs : sign ≠ .comma := by decide) : w.kind ≠ .comma := by
  rcases h.kind with h | h
  · simp [h]
  · exact h ▸ hs

theorem kind_ne_comma_of_relation {kind : TokenKind} {relation : Relation}
    (h : kind.relation? = some relation) : kind ≠ .comma := by
  rintro rfl
  exact absurd h (by simp [TokenKind.relation?])

/-! ## Closing commas -/

/-- A comma in front of a closing parenthesis. -/
def ClosingComma (w next : Word) : Prop := w.kind = .comma ∧ next.kind = .rightParen

instance (w next : Word) : Decidable (ClosingComma w next) := inferInstanceAs (Decidable (_ ∧ _))

/-- The words without the commas in front of closing parentheses. -/
def withoutClosingCommas : List Word → List Word
  | [] => []
  | [w] => [w]
  | w :: next :: ws =>
    if ClosingComma w next then withoutClosingCommas (next :: ws)
    else w :: withoutClosingCommas (next :: ws)

/-- No comma stands in front of a closing parenthesis. -/
def NoClosingComma (ws : List Word) : Prop := ws.IsChain fun w next => ¬ClosingComma w next

instance (ws : List Word) : Decidable (NoClosingComma ws) :=
  inferInstanceAs (Decidable (List.IsChain _ ws))

/-- Without such commas none has to go. -/
theorem NoClosingComma.without_eq {ws : List Word} (h : NoClosingComma ws) :
    withoutClosingCommas ws = ws := by
  fun_induction withoutClosingCommas ws with
  | case1 => rfl
  | case2 w => rfl
  | case3 w next ws hclosing ih => exact absurd hclosing (List.isChain_cons_cons.1 h).1
  | case4 w next ws hclosing ih => rw [ih (List.isChain_cons_cons.1 h).2]

/-- No closing comma lies between two parts. -/
def Apart (l r : List Word) : Prop := ∀ w ∈ l.getLast?, ∀ next ∈ r.head?, ¬ClosingComma w next

theorem withoutClosingCommas_append {l r : List Word} (h : Apart l r) :
    withoutClosingCommas (l ++ r) = withoutClosingCommas l ++ withoutClosingCommas r := by
  fun_induction withoutClosingCommas l with
  | case1 => rfl
  | case2 w =>
    cases r with
    | nil => rfl
    | cons next r => exact if_neg (h w rfl next rfl)
  | case3 w next ws hclosing ih =>
    rw [Apart, List.getLast?_cons_cons] at h
    exact (if_pos hclosing).trans (ih h)
  | case4 w next ws hclosing ih =>
    rw [Apart, List.getLast?_cons_cons] at h
    exact (if_neg hclosing).trans (congrArg (w :: ·) (ih h))

theorem withoutClosingCommas_cons {w : Word} {ws : List Word} (h : w.kind ≠ .comma) :
    withoutClosingCommas (w :: ws) = w :: withoutClosingCommas ws := by
  have hapart : Apart [w] ws := by
    rintro v ⟨⟩ next _ hclosing
    exact h hclosing.1
  exact withoutClosingCommas_append hapart

theorem Enclosable.apart {l r : List Word} (h : Enclosable l) : Apart l r := by
  obtain ⟨rest, w, rfl, hw⟩ := h.last
  intro v hv next _ hclosing
  obtain rfl : w = v := by simpa using hv
  exact hw hclosing.1

/-- Between two parts with a word between them that is no comma, no comma has to go. -/
theorem withoutClosingCommas_sign {l r : List Word} {sign : Word} (hl : Enclosable l)
    (hs : sign.kind ≠ .comma) :
    withoutClosingCommas (l ++ sign :: r) =
      withoutClosingCommas l ++ sign :: withoutClosingCommas r := by
  rw [withoutClosingCommas_append hl.apart, withoutClosingCommas_cons hs]

theorem NoClosingComma.cons {w : Word} {ws : List Word} (h : NoClosingComma ws)
    (hw : w.kind ≠ .comma) : NoClosingComma (w :: ws) :=
  List.isChain_cons.2 ⟨fun _ _ hclosing => hw hclosing.1, h⟩

theorem NoClosingComma.sign {l r : List Word} {sign : Word} (hl : NoClosingComma l)
    (hs : sign.kind ≠ .comma) (hr : NoClosingComma r) (he : Enclosable l) :
    NoClosingComma (l ++ sign :: r) :=
  List.isChain_append.2 ⟨hl, hr.cons hs, he.apart⟩

/-! ## Arguments -/

theorem Separated.starts {piece ws : List Word} {pieces : List (List Word)}
    (h : Separated (piece :: pieces) ws) (hp : Enclosable piece) :
    ∃ w rest, ws = w :: rest ∧ w.kind ≠ .rightParen := by
  obtain ⟨w, rest, rfl, hw⟩ := hp.first
  cases h with
  | last => exact ⟨w, rest, rfl, hw⟩
  | more => exact ⟨w, _, rfl, hw⟩

/-- Of separated pieces in front of a closing parenthesis only the last comma has to go. -/
theorem Separated.listed {pieces : List (List Word)} {ws : List Word} (h : Separated pieces ws)
    (hp : ∀ piece ∈ pieces, Enclosable piece) {closing : Word} (hc : closing.kind = .rightParen) :
    ∃ ws', Listed (pieces.map withoutClosingCommas) ws' ∧
      withoutClosingCommas (ws ++ [closing]) = ws' ++ [closing] := by
  induction h with
  | none => exact ⟨[], .none, rfl⟩
  | last => exact ⟨_, .one, withoutClosingCommas_append (hp _ List.mem_cons_self).apart⟩
  | @more comma ws rest pieces hcomma h ih =>
    obtain ⟨hws, hpieces⟩ := List.forall_mem_cons.1 hp
    obtain ⟨ws', hlisted, hrest⟩ := ih hpieces
    rw [List.append_assoc, withoutClosingCommas_append hws.apart]
    cases pieces with
    | nil =>
      cases h with
      | none => exact ⟨_, .one, congrArg _ (if_pos ⟨hcomma, hc⟩)⟩
    | cons piece pieces =>
      obtain ⟨w, rest', rfl, hw⟩ := h.starts (List.forall_mem_cons.1 hpieces).1
      have hkept : ¬ClosingComma comma w := fun hclosing => hw hclosing.2
      refine ⟨_, .more hcomma hlisted, ?_⟩
      rw [List.append_assoc]
      exact congrArg _ ((if_neg hkept).trans (congrArg (comma :: ·) hrest))

/-- Listed pieces have no closing comma, in them or in front of a closing parenthesis. -/
theorem Listed.noClosingComma {pieces : List (List Word)} {ws : List Word} (h : Listed pieces ws)
    (hp : ∀ piece ∈ pieces, Enclosable piece ∧ NoClosingComma piece) :
    NoClosingComma ws ∧ (pieces ≠ [] → Enclosable ws) := by
  induction h with
  | none => exact ⟨.nil, fun h => absurd rfl h⟩
  | one =>
    obtain ⟨he, hn⟩ := hp _ List.mem_cons_self
    exact ⟨hn, fun _ => he⟩
  | @more comma ws rest piece pieces hcomma h ih =>
    obtain ⟨⟨he, hn⟩, hpieces⟩ := List.forall_mem_cons.1 hp
    obtain ⟨hrest, herest⟩ := ih hpieces
    have herest := herest (List.cons_ne_nil _ _)
    obtain ⟨w, rest', hw, hkind⟩ := herest.first
    have hkept : NoClosingComma (comma :: rest) := by
      refine List.isChain_cons.2 ⟨fun next hnext hclosing => ?_, hrest⟩
      obtain rfl : w = next := by simpa [hw] using hnext
      exact hkind hclosing.2
    exact ⟨List.isChain_append.2 ⟨hn, hkept, he.apart⟩, fun _ => he.append comma herest⟩

/-! ## Sentences without closing commas -/

/-- **A sentence becomes one with listed arguments if its closing commas go.** -/
theorem Sentence.listed {production : Production} {ws : List Word}
    (h : Sentence Separated production ws) :
    Sentence Listed production (withoutClosingCommas ws) := by
  induction h with
  | orFirst _ ih => exact .orFirst ih
  | andFirst _ ih => exact .andFirst ih
  | notNone _ ih => exact .notNone ih
  | relationOne _ ih => exact .relationOne ih
  | orMore hl hs _ ihl ihr =>
    rw [withoutClosingCommas_sign hl.enclosable hs.kind_ne_comma]
    exact .orMore ihl hs ihr
  | andMore hl hs _ ihl ihr =>
    rw [withoutClosingCommas_sign hl.enclosable hs.kind_ne_comma]
    exact .andMore ihl hs ihr
  | not hs _ ih =>
    rw [withoutClosingCommas_cons hs.kind_ne_comma]
    exact .not hs ih
  | relation hl hs _ ihl ihr =>
    rw [withoutClosingCommas_sign hl.enclosable (kind_ne_comma_of_relation hs)]
    exact .relation ihl hs ihr
  | parens ho h hc ih =>
    rw [withoutClosingCommas_cons (by simp [ho]), withoutClosingCommas_append h.enclosable.apart]
    exact .parens ho ih hc
  | number hw => exact .number hw
  | @negative minus w hm hw =>
    rw [withoutClosingCommas_cons (by simp [hm])]
    exact .negative hm hw
  | string hw => exact .string hw
  | word hw hmem => exact .word hw hmem
  | level hw hd hn =>
    rw [withoutClosingCommas_cons (by simp [hw.1]), withoutClosingCommas_cons (by simp [hd])]
    exact .level hw hd hn
  | @call name opening closing pieces ws hn ho hs h hc ih =>
    obtain ⟨ws', hlisted, hws⟩ := hs.listed (fun piece hpiece => (h piece hpiece).enclosable) hc
    rw [withoutClosingCommas_cons (by simp [hn]), withoutClosingCommas_cons (by simp [ho]), hws]
    refine .call hn ho hlisted (fun piece hpiece => ?_) hc
    obtain ⟨whole, hwhole, rfl⟩ := List.mem_map.1 hpiece
    exact ih whole hwhole

/-- **A sentence with listed arguments has no closing comma.** -/
theorem Sentence.noClosingComma {production : Production} {ws : List Word}
    (h : Sentence Listed production ws) : NoClosingComma ws := by
  induction h with
  | orFirst _ ih | andFirst _ ih | notNone _ ih | relationOne _ ih => exact ih
  | orMore hl hs _ ihl ihr | andMore hl hs _ ihl ihr =>
    exact ihl.sign hs.kind_ne_comma ihr hl.enclosable
  | relation hl hs _ ihl ihr => exact ihl.sign (kind_ne_comma_of_relation hs) ihr hl.enclosable
  | not hs _ ih => exact ih.cons hs.kind_ne_comma
  | parens ho h hc ih =>
    exact (ih.sign (by simp [hc]) .nil h.enclosable).cons (by simp [ho])
  | number | string | word => exact .singleton _
  | negative hm hw => exact .cons (.singleton _) (by simp [hm])
  | level hw hd hn => exact .cons (.cons (.singleton _) (by simp [hd])) (by simp [hw.1])
  | @call name opening closing pieces ws hn ho hs h hc ih =>
    obtain ⟨hws, he⟩ := hs.noClosingComma fun piece hp => ⟨(h piece hp).enclosable, ih piece hp⟩
    have hclosed : NoClosingComma (ws ++ [closing]) := by
      by_cases hp : pieces = []
      · subst hp
        cases hs with
        | none => exact .singleton _
      · exact hws.sign (by simp [hc]) .nil (he hp)
    exact .cons (.cons hclosed (by simp [ho])) (by simp [hn])

/-! ## Accepted texts -/

/-- **The commas after last arguments are all that sets accepted texts apart** from sentences with
listed arguments: without them the words of an accepted text are such a sentence, and so they are as
they stand exactly if there is none among them. -/
theorem Expr.sentence_of_parse {env : Surroundings} {text : String} {e : Expr}
    (h : Expr.parse env text = .ok e) :
    Sentence Listed .or (withoutClosingCommas (Tokens.ofText text).words) ∧
      (Sentence Listed .or (Tokens.ofText text).words ↔
        NoClosingComma (Tokens.ofText text).words) := by
  have hlisted := (Expr.derives_of_parse h).2.sentence.listed
  refine ⟨hlisted, Sentence.noClosingComma, fun hnone => ?_⟩
  rwa [hnone.without_eq] at hlisted

/-- A call of one argument with a comma after it. -/
def wordsWithClosingComma : List Word :=
  [.keyword "length", .leftParen, .keyword "message", .comma, .rightParen]

theorem words_closingComma :
    (Tokens.ofText "length(message,)").IsComplete ∧
      (Tokens.ofText "length(message,)").words = wordsWithClosingComma := by
  have hcomma : Stops Lexeme.continuesKeyword ",)".toList := by
    rintro c ⟨⟩
    decide
  have hmessage : Begins ("message".toList ++ ",)".toList) _ _ :=
    begins_keyword (by decide +kernel) hcomma
  have hlength : Begins ("length".toList ++ "(message,)".toList) _ _ :=
    begins_keyword_of_delimited (s := "length") (by decide +kernel) (delimited_cons (by decide))
  exact begins_nil (hlength.cons ((begins_punctuation rfl).cons (hmessage.cons
    ((begins_punctuation rfl).cons (begins_punctuation rfl)))))

theorem parse_closingComma :
    Expr.parse .standard "length(message,)" = .ok (.call "length" [.message] Method.length) := by
  have hsays : (Word.keyword "message").Says "message" := by decide +kernel
  have hmessage : Derives .standard .operand [.keyword "message"] .message :=
    .word hsays (by simp [fixedWords])
  have hargument := hmessage.or_of_operand (by rintro w ⟨⟩; decide +kernel)
  have hseparated : Separated ([([Word.keyword "message"], Expr.message)].map Prod.fst)
      [.keyword "message", .comma] := .more rfl .none
  have hreserved : ∀ reserved ∈ reservedWords, ¬(Word.keyword "length").Says reserved := by
    decide +kernel
  have hcall : Derives .standard .operand wordsWithClosingComma
      (.call "length" [.message] Method.length) :=
    .call rfl hreserved rfl hseparated (List.forall_mem_singleton.2 hargument) rfl rfl
  obtain ⟨hcomplete, hwords⟩ := words_closingComma
  refine Expr.parse_of_derives hcomplete ?_
  rw [hwords]
  exact hcall.or_of_operand (by rintro w ⟨⟩; decide +kernel)

/-- In `length(message,)` one comma has to go. -/
theorem Expr.sentence_of_parse_closingComma :
    (∃ e, Expr.parse .standard "length(message,)" = .ok e) ∧
      Sentence Listed .or [.keyword "length", .leftParen, .keyword "message", .rightParen] := by
  have hsentence := (Expr.sentence_of_parse parse_closingComma).1
  rw [words_closingComma.2] at hsentence
  exact ⟨⟨_, parse_closingComma⟩, hsentence⟩

/-- As it stands, `length(message,)` is accepted and is no sentence. -/
theorem Expr.accepted_not_sentence :
    (∃ e, Expr.parse .standard "length(message,)" = .ok e) ∧
      ¬Sentence Listed .or (Tokens.ofText "length(message,)").words := by
  refine ⟨⟨_, parse_closingComma⟩, fun hsentence => ?_⟩
  have hnone := hsentence.noClosingComma
  rw [words_closingComma.2] at hnone
  exact absurd hnone (by decide)

end LogFilter
