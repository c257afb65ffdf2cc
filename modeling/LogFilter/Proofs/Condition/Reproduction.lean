import LogFilter.Proofs.Condition.Canonical
import LogFilter.Proofs.Condition.Formed

/-!
# Parsing what was printed of what was parsed

An expression that came out of the parser is printed and parsed again. It comes back exactly if no
string literal in it opens a placeholder and every number in it is finite. Neither is excluded by
the parser:

* a string whose template has only fixed parts becomes a literal with their text, and this text can
  open a placeholder that the template did not have;
* a numeral with a point that is too large becomes infinity, which has no literal.

What the parser answers has the other properties that a canonical form needs (`Derives.isMadeOf`).
In the other direction, what derives has only strings that compile and only keywords that mean
something (`Derives.isKnown`), so a canonical form with other words is not parsed at all.
-/

namespace LogFilter

variable {env : Surroundings}

/-! ## What the parser reads -/

/-- The words of separated pieces are those of the pieces and commas. -/
theorem Separated.mem_inv {pieces : List (List Word)} {ws : List Word} (h : Separated pieces ws)
    {w : Word} (hw : w ∈ ws) : w.kind = .comma ∨ ∃ piece ∈ pieces, w ∈ piece := by
  induction h with
  | none => exact absurd hw (by simp)
  | last => exact Or.inr ⟨_, List.mem_singleton_self _, hw⟩
  | more hc _ ih =>
    rcases List.mem_append.1 hw with hw | hw
    · exact Or.inr ⟨_, List.mem_cons_self, hw⟩
    rcases List.mem_cons.1 hw with rfl | hw
    · exact Or.inl hc
    rcases ih hw with hk | ⟨piece, hp, hw⟩
    · exact Or.inl hk
    · exact Or.inr ⟨piece, List.mem_cons_of_mem _ hp, hw⟩

/-- Keywords with a meaning that no method gives them. -/
def knownWords : List String := ["or", "and", "not"] ++ reservedWords ++ Level.all.map Level.name

/-- A keyword that means something or a string that compiles; words of other kinds say no more than
their kind. -/
def Word.IsKnown (env : Surroundings) (w : Word) : Prop :=
  match w.kind with
  | .keyword => (∃ name ∈ knownWords, w.Says name) ∨
    ∃ count method, env.resolve (String.ofList w.text) count = .ok (some method)
  | .string => ∃ template e, w.text = quotedText template ∧ Compiles env.compile template e
  | _ => True

theorem Word.isKnown_of_says {w : Word} {name : String} (h : w.Says name)
    (hn : name ∈ knownWords) : w.IsKnown env := by
  unfold IsKnown
  rw [h.1]
  exact Or.inl ⟨name, hn, h⟩

theorem Word.isKnown_of_kind {w : Word} {kind : TokenKind} (h : w.kind = kind)
    (hk : kind ≠ .keyword ∧ kind ≠ .string) : w.IsKnown env := by
  unfold IsKnown
  rw [h]
  split
  · exact absurd rfl hk.1
  · exact absurd rfl hk.2
  · trivial

theorem Word.isKnown_of_relation {w : Word} {relation : Relation}
    (h : w.kind.relation? = some relation) : w.IsKnown env := by
  refine isKnown_of_kind rfl ⟨?_, ?_⟩ <;>
  · intro hk
    rw [hk] at h
    exact absurd h (by simp [TokenKind.relation?])

theorem Word.IsOperator.isKnown {sign : TokenKind} {name : String} {w : Word}
    (h : w.IsOperator sign name) (hn : name ∈ knownWords)
    (hs : sign ≠ .keyword ∧ sign ≠ .string) : w.IsKnown env := by
  rcases h with h | h
  · exact isKnown_of_says h hn
  · exact isKnown_of_kind h hs

/-- **What derives has only words that mean something.** -/
theorem Derives.isKnown {production : Production} {ws : List Word} {e : Expr}
    (h : Derives env production ws e) : ∀ w ∈ ws, w.IsKnown env := by
  induction h with
  | orFirst _ ih | andFirst _ ih | notNone _ _ ih | relationOne _ ih => exact ih
  | orMore _ hs _ ihl ihr =>
    refine List.forall_mem_append.2 ⟨ihl, List.forall_mem_cons.2 ⟨?_, ihr⟩⟩
    exact hs.isKnown (by decide) (by decide)
  | andMore _ hs _ ihl ihr =>
    refine List.forall_mem_append.2 ⟨ihl, List.forall_mem_cons.2 ⟨?_, ihr⟩⟩
    exact hs.isKnown (by decide) (by decide)
  | not hs _ ih => exact List.forall_mem_cons.2 ⟨hs.isKnown (by decide) (by decide), ih⟩
  | relation _ hs _ ihl ihr =>
    refine List.forall_mem_append.2 ⟨ihl, List.forall_mem_cons.2 ⟨?_, ihr⟩⟩
    exact Word.isKnown_of_relation hs
  | parens ho _ hc ih =>
    refine List.forall_mem_cons.2 ⟨?_, List.forall_mem_append.2
      ⟨ih, List.forall_mem_singleton.2 ?_⟩⟩
    · exact Word.isKnown_of_kind ho (by decide)
    · exact Word.isKnown_of_kind hc (by decide)
  | number hw _ =>
    exact List.forall_mem_singleton.2 (Word.isKnown_of_kind hw (by decide))
  | negative hm hw _ =>
    refine List.forall_mem_cons.2 ⟨?_, List.forall_mem_singleton.2 ?_⟩
    · exact Word.isKnown_of_kind hm (by decide)
    · exact Word.isKnown_of_kind hw (by decide)
  | @string w template e hw hq hc =>
    refine List.forall_mem_singleton.2 ?_
    unfold Word.IsKnown
    rw [hw]
    exact ⟨template, e, hq, hc⟩
  | word hw hmem =>
    refine List.forall_mem_singleton.2 (Word.isKnown_of_says hw ?_)
    have hreserved := mem_reservedWords_of_mem_fixedWords hmem
    exact List.mem_append_left _ (List.mem_append_right _ hreserved)
  | @level w dot name level hw hd hn =>
    refine List.forall_mem_cons.2 ⟨?_, List.forall_mem_cons.2 ⟨?_, List.forall_mem_singleton.2 ?_⟩⟩
    · exact Word.isKnown_of_says hw (by decide)
    · exact Word.isKnown_of_kind hd (by decide)
    · exact Word.isKnown_of_says hn
        (List.mem_append_right _ (List.mem_map_of_mem level.mem_all))
  | @call name _ _ arguments ws method hn _ ho hs _ hc hm ih =>
    refine List.forall_mem_cons.2 ⟨?_, List.forall_mem_cons.2 ⟨?_, List.forall_mem_append.2
      ⟨fun w hw => ?_, List.forall_mem_singleton.2 ?_⟩⟩⟩
    -- a name that is no word of the grammar is known by its method
    · unfold Word.IsKnown
      rw [hn]
      exact Or.inr ⟨_, method, hm⟩
    · exact Word.isKnown_of_kind ho (by decide)
    · rcases hs.mem_inv hw with hk | ⟨piece, hpiece, hw⟩
      · exact Word.isKnown_of_kind hk (by decide)
      · obtain ⟨p, hp, rfl⟩ := List.mem_map.1 hpiece
        exact ih p hp w hw
    · exact Word.isKnown_of_kind hc (by decide)

/-! ## Canonical forms that can be read -/

theorem mem_wordsAll {arguments : List Expr} {a : Expr} (ha : a ∈ arguments) :
    ∀ w ∈ a.words, w ∈ Expr.wordsAll arguments := by
  intro w hw
  induction arguments with
  | nil => exact absurd ha (by simp)
  | cons b bs ih =>
    cases bs with
    | nil =>
      obtain rfl := List.mem_singleton.1 ha
      exact hw
    | cons c cs =>
      show w ∈ b.words ++ .comma :: Expr.wordsAll (c :: cs)
      rcases List.mem_cons.1 ha with rfl | ha
      · exact List.mem_append_left _ hw
      · exact List.mem_append_right _ (List.mem_cons_of_mem _ (ih ha))

/-- The words of a part of an expression are words of the expression. -/
theorem Expr.mem_words_of_mem_children {c e : Expr} (hc : c ∈ e.children) :
    ∀ w ∈ c.words, w ∈ e.words := by
  intro w hw
  cases e with
  | call name arguments method =>
    exact List.mem_cons_of_mem _ (List.mem_cons_of_mem _
      (List.mem_append_left _ (mem_wordsAll hc w hw)))
  | not a =>
    obtain rfl := List.mem_singleton.1 hc
    exact List.mem_cons_of_mem _ (List.mem_cons_of_mem _ (List.mem_append_left _ hw))
  | and a b | or a b | relation _ a b =>
    refine List.mem_cons_of_mem _ ?_
    rcases List.mem_cons.1 hc with rfl | hc
    · exact List.mem_append_left _ hw
    · obtain rfl := List.mem_singleton.1 hc
      exact List.mem_append_right _ (List.mem_cons_of_mem _ (List.mem_append_left _ hw))
  | _ => exact absurd hc (by simp [children])

theorem quotedText_injective {s t : String} (h : quotedText s = quotedText t) : s = t := by
  simp only [quotedText, List.cons.injEq, true_and, List.append_cancel_right_eq] at h
  have hs := Text.halveQuotes_doubleQuotes s.toList
  rw [h, Text.halveQuotes_doubleQuotes] at hs
  exact (String.toList_inj.1 hs).symm

theorem Registry.resolve_of_lookup {registry : Registry} {name : String}
    (h : (lookup? (key name) registry.entries).isSome = false) (count : Nat) :
    registry.resolve name count = .ok none := by
  rw [Option.isSome_eq_false_iff, Option.isNone_iff_eq_none] at h
  rw [resolve, h]

/-- A keyword without a meaning of its own that no standard method has as its name. -/
theorem Word.not_isKnown {name : String} (hk : ∀ known ∈ knownWords, ¬(keyword name).Says known)
    (hr : (Registry.lookup? (Registry.key name) Registry.standard.entries).isSome = false) :
    ¬(keyword name).IsKnown .standard := by
  rintro (⟨known, hmem, hsays⟩ | ⟨count, method, hm⟩)
  · exact hk known hmem hsays
  · rw [keyword, String.ofList_toList] at hm
    exact absurd ((Registry.resolve_of_lookup hr count).symm.trans hm) (by simp)

/-- A double whose words mean something is finite. -/
theorem isFinite_of_isKnown {x : Float}
    (h : ∀ w ∈ (Value.float x).words, w.IsKnown .standard) : Decimal.isFinite x = true := by
  have hnan : ¬(Word.keyword "NaN").IsKnown .standard :=
    Word.not_isKnown (by decide +kernel) (by decide +kernel)
  have hinf : ¬(Word.keyword "Infinity").IsKnown .standard :=
    Word.not_isKnown (by decide +kernel) (by decide +kernel)
  rw [Value.words] at h
  split at h
  · exact absurd (h _ (List.mem_singleton_self _)) hnan
  next hn =>
  split at h
  · refine absurd (h _ ?_) hinf
    unfold signedWords
    split <;> simp
  next hi =>
  simp only [Decimal.isNaN, Decimal.isInfinite, decide_eq_true_eq, beq_iff_eq] at hn hi
  exact decide_eq_true (by omega)

/-- No standard method has the name of a word with a meaning of its own. -/
theorem not_says_of_resolves {name : String} {count : Nat} {method : Method}
    (h : Registry.standard.resolve name count = .ok (some method)) :
    ∀ known ∈ knownWords, ¬(Word.keyword name).Says known := by
  intro known hk hsays
  have hfree : ∀ known ∈ knownWords, (Registry.lookup? (Registry.key known)
      Registry.standard.entries).isSome = false := by decide +kernel
  have hkey : Registry.key name = Registry.key known :=
    congrArg String.ofList (beq_iff_eq.1 hsays.2)
  have hlookup := hfree known hk
  rw [← hkey] at hlookup
  exact absurd ((Registry.resolve_of_lookup hlookup count).symm.trans h) (by simp)

/-- Of a node that was parsed only a literal can be such that it is not read back. -/
theorem Expr.IsFormed.isReadable {e : Expr} (h : e.IsFormed .standard)
    (hv : ∀ v, e = .literal v → v.IsReadable Template.compile) : e.IsReadable .standard := by
  cases e with
  | literal v => exact hv v rfl
  | layout l =>
    obtain ⟨template, hc⟩ := h
    cases hc with
    | varying hl hfixed => exact compiles_layout hl hfixed
  | call name arguments method =>
    obtain ⟨hkeyword, hreserved, hm⟩ := h
    exact ⟨hkeyword, hreserved, not_says_of_resolves hm "not" (by decide), method, hm⟩
  | _ => trivial

/-- **An expression that was parsed can be read back if its words mean something.** -/
theorem Expr.isReadable_of_isKnown {e : Expr} (hf : e.All (IsFormed .standard))
    (hk : ∀ w ∈ e.words, w.IsKnown .standard) : e.All (IsReadable .standard) := by
  induction e using Expr.induction with
  | step e ih =>
    refine ⟨hf.here.isReadable ?_, fun c hc =>
      ih c hc (hf.inside hc) fun w hw => hk w (mem_words_of_mem_children hc w hw)⟩
    rintro v rfl
    cases v with
    | string s =>
      obtain ⟨template, e, hq, hc⟩ := hk _ (List.mem_singleton_self _)
      exact ⟨e, quotedText_injective hq ▸ hc⟩
    | float x => exact isFinite_of_isKnown hk
    | _ => exact hf.here

/-! ## Reproduction -/

/-- A node that comes back when it is printed and parsed: a string that opens no placeholder, a
finite double, or a node that is neither. -/
def Expr.IsReproducible : Expr → Prop
  | literal (.string s) => Text.occursIn Template.opening s.toList = false
  | literal (.float x) => Decimal.isFinite x = true
  | _ => True

theorem Expr.isReproducible_of {e : Expr} (hr : e.IsReadable .standard)
    (hs : e.IsStable Template.compile) : e.IsReproducible := by
  cases e with
  | literal v =>
    cases v with
    | string s => exact compiles_self_iff.1 hs
    | float x => exact hr
    | _ => trivial
  | _ => trivial

theorem Expr.IsReproducible.isStable {e : Expr} (h : e.IsReproducible) :
    e.IsStable Template.compile := by
  cases e with
  | literal v =>
    cases v with
    | string s => exact compiles_self_iff.2 h
    | _ => trivial
  | _ => trivial

theorem Expr.IsReproducible.isReadable {e : Expr} (h : e.IsReproducible)
    (hf : e.IsFormed .standard) : e.IsReadable .standard := by
  refine hf.isReadable ?_
  rintro v rfl
  cases v with
  | string s => exact ⟨_, compiles_self_iff.2 h⟩
  | float x => exact h
  | _ => exact hf

/-- What is read back from a canonical form is the tree of its words, so it is the same expression
only if no string and no number stands in the way. -/
theorem Expr.isReproducible_of_same {e e' : Expr} (hf : e.All (IsFormed .standard))
    (hparse : Expr.parse .standard e.text = .ok e') (hsame : e.same e' = true) :
    e.All IsReproducible := by
  have hspelled : e.All IsSpelled := hf.mono fun e h => by
    cases e with
    | literal v => exact h
    | call name arguments method => exact h.1
    | _ => trivial
  -- the words that were parsed again are those of the expression, so they mean something
  obtain ⟨_, hd⟩ := Expr.derives_of_parse hparse
  rw [(words_ofText_text hspelled).2] at hd
  have hreadable := isReadable_of_isKnown hf hd.isKnown
  obtain ⟨e'', hparse', hiff⟩ := exists_parse_text hreadable
  obtain rfl : e' = e'' := Except.ok.inj (hparse.symm.trans hparse')
  exact (hreadable.and (hiff.1 hsame)).mono fun e h => isReproducible_of h.1 h.2

/-- **What was parsed comes back when it is printed and parsed exactly if no string in it opens a
placeholder and every number in it is finite.** -/
theorem Expr.reproduces_iff {text : String} {e : Expr} (h : Expr.parse .standard text = .ok e) :
    (∃ e', Expr.parse .standard e.text = .ok e' ∧ e.same e' = true) ↔ e.All IsReproducible := by
  have hf : e.All (IsFormed .standard) := isFormed_of_parse h
  constructor
  · rintro ⟨e', hparse, hsame⟩
    exact isReproducible_of_same hf hparse hsame
  · intro hr
    have hreadable : e.All (IsReadable .standard) :=
      (hr.and hf).mono fun e h => h.1.isReadable h.2
    obtain ⟨e', hparse, hiff⟩ := exists_parse_text hreadable
    exact ⟨e', hparse, hiff.2 (hr.mono fun e h => h.isStable)⟩

/-- A template in quotes is parsed as what it stands for. -/
theorem Expr.parse_quotedText {s : String} {e : Expr} (h : Compiles env.compile s e) :
    Expr.parse env (String.ofList (quotedText s)) = .ok e := by
  have hbegins : Begins (quotedText s ++ []) [⟨.string, quotedText s⟩] [] :=
    begins_quoted_of_delimited delimited_nil
  rw [List.append_nil, ← String.toList_ofList (l := quotedText s)] at hbegins
  obtain ⟨hc, hwords⟩ := begins_nil hbegins
  refine Expr.parse_of_derives hc ?_
  rw [hwords, String.toList_ofList]
  exact derives_quoted h

/-- A string of which the template is fixed is parsed as a literal. -/
theorem Expr.parse_quoted {s text : String} {l : Layout} (h : env.compile s = .ok l)
    (hf : l.fixedText? = some text) :
    Expr.parse env (String.ofList (quotedText s)) = .ok (.literal (.string text)) :=
  parse_quotedText (.constant h hf)

/-- A string without a placeholder comes back. -/
theorem Expr.reproduces_quote :
    (∃ e', Expr.parse .standard (Expr.literal (.string "it's")).text = .ok e' ∧
      (Expr.literal (.string "it's")).same e' = true) ↔
      (Expr.literal (.string "it's")).All IsReproducible := by
  obtain ⟨l, hl, hf⟩ := Template.compile_fixedText?_self_iff.2
    (show Text.occursIn Template.opening "it's".toList = false by decide +kernel)
  have hparse : Expr.parse .standard (String.ofList (quotedText "it's")) = _ :=
    Expr.parse_quoted hl hf
  exact Expr.reproduces_iff hparse

/-- The fixed text of this template is a template that depends on the event. -/
theorem Expr.not_reproduced_opening :
    ∃ e, Expr.parse .standard "'$\x7bliteral:text=$\x7d\x7bmessage\x7d'" = .ok e ∧
      ¬∃ e', Expr.parse .standard e.text = .ok e' ∧ e.same e' = true := by
  have hopens : Text.breakOn Template.opening "$\x7bliteral:text=$\x7d\x7bmessage\x7d".toList =
      some ([], "literal:text=$\x7d\x7bmessage\x7d".toList) := by decide +kernel
  have hcloses : Text.breakOn Template.closing "literal:text=$\x7d\x7bmessage\x7d".toList =
      some ("literal:text=$".toList, "\x7bmessage\x7d".toList) := by decide +kernel
  have hplaceholder : Template.placeholder "literal:text=$".toList = .ok (.literal "$") := rfl
  have hplain : Text.breakOn Template.opening "\x7bmessage\x7d".toList = none := by decide +kernel
  have hparts : Template.parse "$\x7bliteral:text=$\x7d\x7bmessage\x7d" =
      .ok [.literal "$\x7bmessage\x7d"] := by
    rw [Template.parse, Template.partsOf_placeholder hopens hcloses, hplaceholder,
      Template.partsOf_plain hplain]
    rfl
  have hcompile : ∃ l, Template.compile "$\x7bliteral:text=$\x7d\x7bmessage\x7d" = .ok l ∧
      l.fixedText? = some "$\x7bmessage\x7d" := by
    rw [Template.compile, hparts]
    exact ⟨_, rfl, rfl⟩
  obtain ⟨l, hl, hf⟩ := hcompile
  have hparse : Expr.parse .standard
      (String.ofList (quotedText "$\x7bliteral:text=$\x7d\x7bmessage\x7d")) = _ :=
    Expr.parse_quoted hl hf
  refine ⟨_, hparse, ?_⟩
  rintro ⟨e', hparse', hsame⟩
  have hopen : Text.occursIn Template.opening "$\x7bmessage\x7d".toList = true := by decide +kernel
  have hr : Text.occursIn Template.opening "$\x7bmessage\x7d".toList = false :=
    (isReproducible_of_same (isFormed_of_parse hparse) hparse' hsame).here
  exact absurd (hopen.symm.trans hr) (by decide)

end LogFilter
