import LogFilter.Proofs.Condition.Reproduction
import Mathlib.Data.List.Forall2

/-!
# Spellings that mean the same

Some words of a condition have more than one spelling: the operators that have a sign and a name, the
comparisons that have two signs, and the keywords with a meaning of their own, which can be written
in any ASCII case. Replacing such words by others of the same meaning, one by one, does not change
what a condition means: the new words derive from the same production, and with the same tree
(`Derives.of_synonyms`).

The names `and`, `or` and `not` are keywords, as the names of methods are. That none of them is the
name of a method is what makes them mean the operator wherever they stand.

Blanks and places are no part of a word, so two texts of the same words mean the same anyway.
-/

namespace LogFilter

/-! ## Spellings of one word -/

/-- The operators that have a sign and a name. -/
def namedOperators : List (TokenKind × String) := [(.or, "or"), (.and, "and"), (.not, "not")]

/-- Two words that mean the same. A level can be said in any case wherever its name stands; in a
condition that is parsed it stands after `loglevel` and a dot. -/
inductive Word.Synonym : Word → Word → Prop
  | same {w : Word} : Synonym w w
  | operator {sign : TokenKind} {name : String} {v w : Word} (h : (sign, name) ∈ namedOperators)
      (hv : v.IsOperator sign name) (hw : w.IsOperator sign name) : Synonym v w
  | relation {relation : Relation} {v w : Word} (hv : v.kind.relation? = some relation)
      (hw : w.kind.relation? = some relation) : Synonym v w
  | name {name : String} {v w : Word} (h : name ∈ knownWords) (hv : v.Says name)
      (hw : w.Says name) : Synonym v w

namespace Word

variable {v w : Word}

/-- A word says one of the known words at most. -/
theorem Says.unique_of_known {a b : String} (ha : w.Says a) (hb : w.Says b) (hak : a ∈ knownWords)
    (hbk : b ∈ knownWords) : a = b := by
  have hall : ∀ a ∈ knownWords, ∀ b ∈ knownWords,
      Text.sameIgnoringAsciiCase a.toList b.toList = true → a = b := by decide +kernel
  have hchars : w.text.map Char.toLower = _ := beq_iff_eq.1 ha.2
  have hcharsb : w.text.map Char.toLower = _ := beq_iff_eq.1 hb.2
  exact hall a hak b hbk (beq_iff_eq.2 (hchars.symm.trans hcharsb))

theorem Synonym.symm (h : v.Synonym w) : w.Synonym v := by
  cases h with
  | same => exact .same
  | operator h hv hw => exact .operator h hw hv
  | relation hv hw => exact .relation hw hv
  | name h hv hw => exact .name h hw hv

/-- The signs of the named operators are neither comparisons nor keywords, and their names are
known. -/
theorem of_mem_namedOperators {sign : TokenKind} {name : String}
    (h : (sign, name) ∈ namedOperators) :
    sign.relation? = none ∧ sign ≠ .keyword ∧ name ∈ knownWords := by
  have hall : ∀ p ∈ namedOperators, p.1.relation? = none ∧ p.1 ≠ .keyword ∧ p.2 ∈ knownWords := by
    decide
  exact hall (sign, name) h

/-- The words of the grammar are known, and no operators. -/
theorem of_mem_reservedWords {name : String} (h : name ∈ reservedWords) :
    name ∈ knownWords ∧ name ∉ namedOperators.map Prod.snd := by
  have hall : ∀ name ∈ reservedWords, name ∈ knownWords ∧
      name ∉ namedOperators.map Prod.snd := by decide
  exact hall name h

/-- Words of these kinds have one spelling. -/
theorem Synonym.eq_of_kind (h : v.Synonym w)
    (hk : v.kind ∈ [.leftParen, .rightParen, .comma, .dot, .minus, .number, .string]) :
    v = w := by
  cases h with
  | same => rfl
  | @operator sign name _ _ h hv hw =>
    have hsigns : ∀ p ∈ namedOperators,
        p.1 ∉ [.leftParen, .rightParen, .comma, .dot, .minus, .number, .string] := by decide
    rcases hv.kind with hkind | hkind
    · rw [hkind] at hk
      exact absurd hk (by decide)
    · rw [hkind] at hk
      exact absurd hk (hsigns _ h)
  | relation hv hw =>
    generalize v.kind = k at hk hv
    fin_cases hk <;> exact absurd hv (by simp [TokenKind.relation?])
  | name h hv hw =>
    rw [hv.1] at hk
    exact absurd hk (by decide)

/-- A word of the grammar is said by all its synonyms. -/
theorem Synonym.says_word (h : v.Synonym w) {name : String} (hv : v.Says name) (hn : name ∈ knownWords)
    (hfree : name ∉ namedOperators.map Prod.snd) : w.Says name := by
  cases h with
  | same => exact hv
  | @operator sign operator _ _ h hv' hw =>
    obtain ⟨_, hsign, hknown⟩ := of_mem_namedOperators h
    rcases hv' with hsays | hkind
    · obtain rfl := hv.unique_of_known hsays hn hknown
      exact absurd (List.mem_map_of_mem h) hfree
    · exact absurd (hkind.symm.trans hv.1) hsign
  | relation hv' hw =>
    rw [hv.1] at hv'
    exact absurd hv' (by simp [TokenKind.relation?])
  | name h hv' hw =>
    obtain rfl := hv.unique_of_known hv' hn h
    exact hw

/-- The synonyms of an operator are the operator. -/
theorem Synonym.isOperator (h : v.Synonym w) {sign : TokenKind} {name : String}
    (hn : (sign, name) ∈ namedOperators) (hv : v.IsOperator sign name) :
    w.IsOperator sign name := by
  obtain ⟨hrelation, hkeyword, hknown⟩ := of_mem_namedOperators hn
  -- a word that says the name of one operator and is another operator cannot be
  have hsigns : ∀ p ∈ namedOperators, ∀ q ∈ namedOperators, p.1 = q.1 ∨ p.2 = q.2 → p = q := by
    decide
  cases h with
  | same => exact hv
  | @operator sign' name' _ _ h hv' hw =>
    obtain ⟨_, hkeyword', hknown'⟩ := of_mem_namedOperators h
    have heq : sign = sign' ∨ name = name' := by
      rcases hv with hv | hv <;> rcases hv' with hv' | hv'
      · exact Or.inr (hv.unique_of_known hv' hknown hknown')
      · exact absurd (hv'.symm.trans hv.1) hkeyword'
      · exact absurd (hv.symm.trans hv'.1) hkeyword
      · exact Or.inl (hv.symm.trans hv')
    obtain ⟨rfl, rfl⟩ := Prod.mk.inj (hsigns _ hn _ h heq)
    exact hw
  | relation hv' hw =>
    rcases hv.kind with hkind | hkind
    · rw [hkind] at hv'
      exact absurd hv' (by simp [TokenKind.relation?])
    · rw [hkind, hrelation] at hv'
      exact absurd hv' (by simp)
  | name h hv' hw =>
    rcases hv with hv | hv
    · obtain rfl := hv.unique_of_known hv' hknown h
      exact Or.inl hw
    · exact absurd (hv.symm.trans hv'.1) hkeyword

/-- The synonyms of a comparison are the comparison. -/
theorem Synonym.relation? (h : v.Synonym w) {relation : Relation}
    (hv : v.kind.relation? = some relation) : w.kind.relation? = some relation := by
  cases h with
  | same => exact hv
  | operator h hv' hw =>
    rcases hv'.kind with hkind | hkind
    · rw [hkind] at hv
      exact absurd hv (by simp [TokenKind.relation?])
    · rw [hkind, (of_mem_namedOperators h).1] at hv
      exact absurd hv (by simp)
  | relation hv' hw => rwa [← hv, hv']
  | name h hv' hw =>
    rw [hv'.1] at hv
    exact absurd hv (by simp [TokenKind.relation?])

/-- A keyword without a meaning of its own has one spelling. -/
theorem Synonym.eq_of_not_known (h : v.Synonym w) (hk : v.kind = .keyword)
    (hfree : ∀ known ∈ knownWords, ¬v.Says known) : v = w := by
  cases h with
  | same => rfl
  | operator h hv hw =>
    obtain ⟨_, hsign, hknown⟩ := of_mem_namedOperators h
    rcases hv with hsays | hkind
    · exact absurd hsays (hfree _ hknown)
    · exact absurd (hkind.symm.trans hk) hsign
  | relation hv hw =>
    rw [hk] at hv
    exact absurd hv (by simp [TokenKind.relation?])
  | name h hv hw => exact absurd hv (hfree _ h)

end Word

/-! ## Words in a row -/

/-- Words of the same meaning in the same order. -/
abbrev Synonyms : List Word → List Word → Prop := List.Forall₂ Word.Synonym

theorem Synonyms.append_inv {l r ws : List Word} (h : Synonyms (l ++ r) ws) :
    ∃ l' r', ws = l' ++ r' ∧ Synonyms l l' ∧ Synonyms r r' := by
  induction l generalizing ws with
  | nil => exact ⟨[], ws, rfl, .nil, h⟩
  | cons v l ih =>
    cases h with
    | cons hv h =>
      obtain ⟨l', r', rfl, hl, hr⟩ := ih h
      exact ⟨_ :: l', r', rfl, .cons hv hl, hr⟩

/-- A part, a word and another part, all with their synonyms. -/
theorem Synonyms.middle_inv {l r ws : List Word} {v : Word} (h : Synonyms (l ++ v :: r) ws) :
    ∃ l' w r', ws = l' ++ w :: r' ∧ Synonyms l l' ∧ v.Synonym w ∧ Synonyms r r' := by
  obtain ⟨l', ws', rfl, hl, h⟩ := h.append_inv
  cases h with
  | cons hv hr => exact ⟨l', _, _, rfl, hl, hv, hr⟩

/-- Synonyms of separated pieces are separated in the same places. -/
theorem Separated.of_synonyms {pieces : List (List Word)} {ws ws' : List Word}
    (h : Separated pieces ws) (hs : Synonyms ws ws') :
    ∃ pieces', Separated pieces' ws' ∧ List.Forall₂ Synonyms pieces pieces' := by
  induction h generalizing ws' with
  | none =>
    cases hs
    exact ⟨[], .none, .nil⟩
  | last => exact ⟨[ws'], .last, .cons hs .nil⟩
  | more hc _ ih =>
    obtain ⟨piece, comma, rest, rfl, hpiece, hcomma, hrest⟩ := hs.middle_inv
    obtain ⟨pieces', hsep, hpieces⟩ := ih hrest
    obtain rfl := hcomma.eq_of_kind (by simp [hc])
    exact ⟨piece :: pieces', .more hc hsep, .cons hpiece hpieces⟩

/-- Arguments that keep their trees when synonyms take the place of their words. -/
theorem exists_synonymous_arguments {env : Surroundings} {arguments : List (List Word × Expr)}
    {pieces : List (List Word)} (hp : List.Forall₂ Synonyms (arguments.map Prod.fst) pieces)
    (h : ∀ p ∈ arguments, ∀ ws, Synonyms p.1 ws → Derives env .or ws p.2) :
    ∃ arguments' : List (List Word × Expr), arguments'.map Prod.fst = pieces ∧
      arguments'.map Prod.snd = arguments.map Prod.snd ∧
      ∀ p ∈ arguments', Derives env .or p.1 p.2 := by
  induction arguments generalizing pieces with
  | nil =>
    cases hp
    exact ⟨[], rfl, rfl, by simp⟩
  | cons p arguments ih =>
    cases hp with
    | @cons _ piece _ pieces hpiece hpieces =>
      obtain ⟨hfirst, hrest⟩ := List.forall_mem_cons.1 h
      obtain ⟨arguments', hwords, htrees, hall⟩ := ih hpieces hrest
      refine ⟨(piece, p.2) :: arguments', ?_, ?_, ?_⟩
      · rw [List.map_cons, hwords]
      · rw [List.map_cons, htrees, List.map_cons]
      · exact List.forall_mem_cons.2 ⟨hfirst piece hpiece, hall⟩

variable {compile : LayoutCompiler}

/-- **Synonyms derive from the same production with the same tree**, if all methods are standard
ones. -/
theorem Derives.of_synonyms {production : Production} {ws ws' : List Word} {e : Expr}
    (h : Derives ⟨Registry.standard.resolve, compile⟩ production ws e) (hs : Synonyms ws ws') :
    Derives ⟨Registry.standard.resolve, compile⟩ production ws' e := by
  induction h generalizing ws' with
  | orFirst _ ih => exact .orFirst (ih hs)
  | andFirst _ ih => exact .andFirst (ih hs)
  | relationOne _ ih => exact .relationOne (ih hs)
  | orMore _ hsign _ ihl ihr =>
    obtain ⟨l', sign, r', rfl, hl, hsyn, hr⟩ := hs.middle_inv
    exact .orMore (ihl hl) (hsyn.isOperator (by decide) hsign) (ihr hr)
  | andMore _ hsign _ ihl ihr =>
    obtain ⟨l', sign, r', rfl, hl, hsyn, hr⟩ := hs.middle_inv
    exact .andMore (ihl hl) (hsyn.isOperator (by decide) hsign) (ihr hr)
  | not hsign _ ih =>
    cases hs with
    | cons hsyn hs => exact .not (hsyn.isOperator (by decide) hsign) (ih hs)
  | notNone _ hw ih =>
    refine .notNone (ih hs) fun w hhead hnot => ?_
    -- a first word that denies is the synonym of one that denies
    cases hs with
    | nil => exact absurd hhead (by simp)
    | cons hsyn hs =>
      obtain rfl := Option.some.inj hhead
      exact hw _ rfl (hsyn.symm.isOperator (by decide) hnot)
  | relation _ hsign _ ihl ihr =>
    obtain ⟨l', sign, r', rfl, hl, hsyn, hr⟩ := hs.middle_inv
    exact .relation (ihl hl) (hsyn.relation? hsign) (ihr hr)
  | parens ho _ hc ih =>
    obtain _ | ⟨hopening, hs⟩ := hs
    obtain ⟨inner, closing, _, rfl, hinner, hclosing, ⟨⟩⟩ := Synonyms.middle_inv hs
    obtain rfl := hopening.eq_of_kind (by simp [ho])
    obtain rfl := hclosing.eq_of_kind (by simp [hc])
    exact .parens ho (ih hinner) hc
  | number hw hv =>
    obtain _ | ⟨hsyn, ⟨⟩⟩ := hs
    obtain rfl := hsyn.eq_of_kind (by simp [hw])
    exact .number hw hv
  | negative hm hw hv =>
    obtain _ | ⟨hminus, _ | ⟨hsyn, ⟨⟩⟩⟩ := hs
    obtain rfl := hminus.eq_of_kind (by simp [hm])
    obtain rfl := hsyn.eq_of_kind (by simp [hw])
    exact .negative hm hw hv
  | string hw hq hc =>
    obtain _ | ⟨hsyn, ⟨⟩⟩ := hs
    obtain rfl := hsyn.eq_of_kind (by simp [hw])
    exact .string hw hq hc
  | @word w name e hw hmem =>
    obtain _ | ⟨hsyn, ⟨⟩⟩ := hs
    have hreserved := mem_reservedWords_of_mem_fixedWords hmem
    obtain ⟨hknown, hfree⟩ := Word.of_mem_reservedWords hreserved
    exact .word (hsyn.says_word hw hknown hfree) hmem
  | @level w dot name level hw hd hn =>
    obtain _ | ⟨hsyn, _ | ⟨hdot, _ | ⟨hname, ⟨⟩⟩⟩⟩ := hs
    obtain rfl := hdot.eq_of_kind (by simp [hd])
    have hreserved : "loglevel" ∈ reservedWords := List.mem_cons_self
    obtain ⟨hknown, hfree⟩ := Word.of_mem_reservedWords hreserved
    have hlevels : ∀ level ∈ Level.all, level.name ∈ knownWords ∧
        level.name ∉ namedOperators.map Prod.snd := by decide
    obtain ⟨hlevel, hlevelFree⟩ := hlevels level level.mem_all
    exact .level (hsyn.says_word hw hknown hfree) hd (hname.says_word hn hlevel hlevelFree)
  | @call name opening closing arguments ws method hn hr ho hsep _ hc hm ih =>
    obtain _ | ⟨hname, _ | ⟨hopening, hs⟩⟩ := hs
    obtain ⟨inner, closing, _, rfl, hinner, hclosing, ⟨⟩⟩ := Synonyms.middle_inv hs
    obtain rfl := hopening.eq_of_kind (by simp [ho])
    obtain rfl := hclosing.eq_of_kind (by simp [hc])
    -- the name is that of a method, so it has no meaning of its own
    have hword : Word.keyword (String.ofList name.text) = name := by
      rw [Word.keyword, String.toList_ofList, ← hn]
    have hfree := not_says_of_resolves hm
    rw [hword] at hfree
    obtain rfl := hname.eq_of_not_known hn hfree
    obtain ⟨pieces, hsep, hpieces⟩ := hsep.of_synonyms hinner
    obtain ⟨arguments', rfl, htrees, hall⟩ :=
      exists_synonymous_arguments hpieces fun p hp ws => ih p hp
    have hlength : arguments'.length = arguments.length := by
      simpa using congrArg List.length htrees
    rw [← hlength] at hm
    rw [← htrees]
    exact .call hn hr ho hsep hall hc hm

/-! ## Trees that are the same as themselves -/

namespace Expr

/-- A node that is the same as itself, which a literal is unless it is a double that is no number. -/
def IsSelfSame : Expr → Prop
  | literal v => v.same v = true
  | _ => True

theorem sameAll_self {arguments : List Expr} (h : ∀ a ∈ arguments, a.same a = true) :
    sameAll arguments arguments = true := by
  induction arguments with
  | nil => rfl
  | cons a as ih =>
    obtain ⟨ha, has⟩ := List.forall_mem_cons.1 h
    rw [sameAll, ha, ih has]
    rfl

theorem same_self {e : Expr} (h : e.All IsSelfSame) : e.same e = true := by
  induction e using Expr.induction with
  | step e ih =>
    have inside : ∀ c ∈ e.children, c.same c = true := fun c hc => ih c hc (h.inside hc)
    cases e with
    | literal v => exact h.here
    | layout l => exact beq_self_eq_true l.template
    | call name arguments method =>
      rw [same, beq_self_eq_true, Bool.true_and]
      exact sameAll_self inside
    | not a =>
      rw [same]
      exact inside a (by simp [children])
    | and a b | or a b =>
      rw [same, inside a (by simp [children]), inside b (by simp [children])]
      rfl
    | relation r a b =>
      rw [same, inside a (by simp [children]), inside b (by simp [children]), beq_self_eq_true]
      rfl
    | _ => rfl

end Expr

/-- A value that a literal stands for is the same as itself. -/
theorem Value.IsWritten.same_self {v : Value} (h : v.IsWritten) : v.same v = true := by
  cases v with
  | null => rfl
  | bool b => exact beq_self_eq_true b
  | int i => exact beq_self_eq_true i
  | float x => exact Decimal.sameNumber_self h
  | string s => exact beq_self_eq_true s
  | level l => exact beq_self_eq_true l
  | date d | exception e => exact absurd h id

/-- What derives has a tree that is the same as itself. -/
theorem Derives.isSelfSame {env : Surroundings} {production : Production} {ws : List Word}
    {e : Expr} (h : Derives env production ws e) : e.All Expr.IsSelfSame := by
  -- the words do not matter here
  have hmade : e.All (Expr.IsMadeOf env fun _ => True) := h.isMadeOf fun _ _ => trivial
  refine hmade.mono fun e he => ?_
  cases e with
  | literal v => exact he.same_self
  | _ => trivial

/-! ## Texts -/

/-- **Texts of synonyms mean the same.** If a text is accepted with the standard methods and another
text that has no fault is made of synonyms, word by word, then that text is accepted too, and its tree
is the same. -/
theorem Expr.parse_of_synonyms {text text' : String} {e : Expr}
    (h : Expr.parse ⟨Registry.standard.resolve, compile⟩ text = .ok e)
    (hc : (Tokens.ofText text').IsComplete)
    (hs : Synonyms (Tokens.ofText text).words (Tokens.ofText text').words) :
    Expr.parse ⟨Registry.standard.resolve, compile⟩ text' = .ok e ∧ e.same e = true := by
  obtain ⟨_, hd⟩ := Expr.derives_of_parse h
  exact ⟨Expr.parse_of_derives hc (hd.of_synonyms hs), same_self hd.isSelfSame⟩

/-- A comparison with a level, or a denial. -/
def warnOrDenied : Expr :=
  .or (.relation .equal .level (.literal (.level .warn))) (.not (.literal (.bool true)))

theorem words_warnOrDenied :
    (Tokens.ofText "level = loglevel.warn or not TRUE").words =
      [.keyword "level", ⟨.equalTo, ['=']⟩, .keyword "loglevel", .dot, .keyword "warn"] ++
        .keyword "or" :: [.keyword "not", .keyword "TRUE"] := by decide +kernel

/-- The words of this condition with another last one, and what they are parsed to. -/
theorem parse_warnOr {text word : String} {e : Expr}
    (hcomplete : (Tokens.ofText text).IsComplete)
    (hwords : (Tokens.ofText text).words =
      [.keyword "level", ⟨.equalTo, ['=']⟩, .keyword "loglevel", .dot, .keyword "warn"] ++
        .keyword "or" :: [.keyword "not", .keyword word])
    (hword : Derives .standard .operand [.keyword word] e)
    (hnot : ∀ w ∈ [Word.keyword word].head?, ¬w.IsNot) :
    Expr.parse .standard text =
      .ok (.or (.relation .equal .level (.literal (.level .warn))) (.not e)) := by
  have hlevel : Derives .standard .operand [.keyword "level"] .level :=
    .word (show Word.Says _ "level" by decide +kernel) (by simp [fixedWords])
  have hwarn : Derives .standard .operand [.keyword "loglevel", .dot, .keyword "warn"]
      (.literal (.level .warn)) := .level (by decide +kernel) rfl (by decide +kernel)
  have hcompared : Derives .standard .not [.keyword "level", ⟨.equalTo, ['=']⟩,
      .keyword "loglevel", .dot, .keyword "warn"] _ :=
    .notNone (.relation hlevel rfl hwarn) (by rintro w ⟨⟩; decide +kernel)
  have hdenied : Derives .standard .not [.keyword "not", .keyword word] _ :=
    .not (Or.inl (by decide +kernel)) (.notNone (.relationOne hword) hnot)
  refine Expr.parse_of_derives hcomplete ?_
  rw [hwords]
  exact .orMore hcompared.or_of_not (Or.inl (by decide +kernel)) (.andFirst hdenied)

theorem parse_warnOrDenied :
    Expr.parse .standard "level = loglevel.warn or not TRUE" = .ok warnOrDenied := by
  have hcomplete : (Tokens.ofText "level = loglevel.warn or not TRUE").IsComplete := ⟨_, by cbv⟩
  have htrue : Derives .standard .operand [.keyword "TRUE"] (.literal (.bool true)) :=
    .word (show Word.Says _ "true" by decide +kernel) (by simp [fixedWords])
  exact parse_warnOr hcomplete words_warnOrDenied htrue (by rintro w ⟨⟩; decide +kernel)

/-- The same condition with signs for names, without blanks and in other cases. -/
theorem Expr.parse_of_synonyms_warnOrDenied :
    Synonyms (Tokens.ofText "level = loglevel.warn or not TRUE").words
        (Tokens.ofText "LEVEL==LogLevel.WARN||!true").words ∧
      Expr.parse .standard "LEVEL==LogLevel.WARN||!true" = .ok warnOrDenied := by
  have hcomplete : (Tokens.ofText "LEVEL==LogLevel.WARN||!true").IsComplete := ⟨_, by cbv⟩
  have hwords : (Tokens.ofText "LEVEL==LogLevel.WARN||!true").words =
      [.keyword "LEVEL", ⟨.equalTo, ['=', '=']⟩, .keyword "LogLevel", .dot, .keyword "WARN",
        ⟨.or, ['|', '|']⟩, ⟨.not, ['!']⟩, .keyword "true"] := by decide +kernel
  -- the names that are said on both sides, in different cases or by a sign
  have hname {v w : Word} (name : String) (h : name ∈ knownWords ∧ v.Says name ∧ w.Says name) :
      v.Synonym w := .name h.1 h.2.1 h.2.2
  have hor : (Word.keyword "or").Synonym ⟨.or, ['|', '|']⟩ :=
    .operator (show (.or, "or") ∈ _ by decide) (by decide +kernel) (by decide +kernel)
  have hnot : (Word.keyword "not").Synonym ⟨.not, ['!']⟩ :=
    .operator (show (.not, "not") ∈ _ by decide) (by decide +kernel) (by decide +kernel)
  have hs : Synonyms (Tokens.ofText "level = loglevel.warn or not TRUE").words
      (Tokens.ofText "LEVEL==LogLevel.WARN||!true").words := by
    rw [words_warnOrDenied, hwords]
    exact .cons (hname "level" (by decide +kernel)) <| .cons (.relation rfl rfl) <|
      .cons (hname "loglevel" (by decide +kernel)) <| .cons .same <|
      .cons (hname "Warn" (by decide +kernel)) <| .cons hor <| .cons hnot <|
      .cons (hname "true" (by decide +kernel)) .nil
  exact ⟨hs, (Expr.parse_of_synonyms parse_warnOrDenied hcomplete hs).1⟩

end LogFilter
