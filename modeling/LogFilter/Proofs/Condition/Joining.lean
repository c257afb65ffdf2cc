import LogFilter.Proofs.Condition.Lookahead

/-!
# Tokens by themselves

Every token of a text is a token by itself: cut alone, its characters are this one token. And it is
the longest one that starts at its place: no longer part of the text from there on is one token. So
a token owes nothing to what stood around it, and tokens that are joined with blanks between them
are cut into the same tokens again, whatever texts they come from (`Tokens.words_joined`).

Both follow from `Lexeme.of_replace`: after a token, the text may be replaced by the end of the
text, by a blank, or by a part of what stood there.
-/

namespace LogFilter

open Text

/-- Cut alone, the characters of a word are this word. -/
def Word.StandsAlone (w : Word) : Prop :=
  (Tokens.ofText (String.ofList w.text)).IsComplete ∧
    (Tokens.ofText (String.ofList w.text)).words = [w]

/-- A token stands in a text at its position, and no longer part of the text from there on is a
token by itself, of whatever kind. -/
def Token.IsLongestIn (text : List Char) (t : Token) : Prop :=
  ∃ before after, text = before ++ (t.text.toList ++ after) ∧ utf8Length before = t.position ∧
    ∀ (kind : TokenKind) (longer : List Char), longer <+: t.text.toList ++ after →
      (⟨kind, longer⟩ : Word).StandsAlone → longer.length ≤ t.text.toList.length

/-- The texts of tokens with a blank between each two of them. -/
def Tokens.joined (ts : List Token) : String := " ".intercalate (ts.map Token.text)

/-! ## One token -/

/-- **A token is the longest start of a text that is one token.** -/
theorem Lexeme.length_le_of_prefix {s text rest longer : List Char} {kind kind' : TokenKind}
    (h : of s = .token kind text rest) (hp : longer <+: s)
    (hl : of longer = .token kind' longer []) : longer.length ≤ text.length := by
  rw [← of_append h] at hp
  by_contra hlt
  obtain ⟨more, rfl⟩ : text <+: longer :=
    List.prefix_of_prefix_length_le (List.prefix_append text rest) hp (by omega)
  have hne : more ≠ [] := by
    rintro rfl
    exact hlt (by simp)
  -- what is more begins like the rest, so the token ends before it
  obtain ⟨after, hrest⟩ := (List.prefix_append_right_inj text).1 hp
  have hhead : more.head? = rest.head? := by
    rw [← hrest, List.head?_append, List.head?_eq_some_head hne, Option.some_or]
  have hof := of_replace h (Or.inl hhead)
  rw [hof, token.injEq] at hl
  exact hne hl.2.2

namespace Word

variable {w : Word} {rest : List Char}

/-- A word stands alone if its characters are a lexeme. -/
theorem standsAlone_iff :
    w.StandsAlone ↔ Lexeme.of w.text = .token w.kind w.text [] ∧ Stops isBlank w.text := by
  constructor
  · rintro ⟨_, hwords⟩
    rw [Tokens.ofText, String.toList_ofList, Tokens.ofChars_eq] at hwords
    cases hlex : Lexeme.of (trimStart w.text) with
    | token kind text after =>
      simp only [hlex, Tokens.words_token, Token.word, String.toList_ofList] at hwords
      obtain ⟨rfl, _⟩ := List.cons.inj hwords
      -- the token has all characters of the text, so there are no blanks before it
      have happend : text ++ after = trimStart text := Lexeme.of_append hlex
      have hlength := congrArg List.length happend
      have hle := length_trimStart_le text
      rw [List.length_append] at hlength
      obtain rfl : after = [] := List.eq_nil_of_length_eq_zero (by omega)
      rw [List.append_nil] at happend
      have hstops : Stops isBlank (trimStart text) := stops_dropWhile isBlank text
      rw [← happend] at hlex hstops
      exact ⟨hlex, hstops⟩
    | finish => exact absurd hwords (by simp [hlex])
    | failure fault read after => exact absurd hwords (by simp [hlex, Tokens.words, Tokens.toList])
  · rintro ⟨hlex, hstops⟩
    refine begins_nil ?_
    rw [String.toList_ofList]
    exact begins_of_lexeme hlex hstops

/-- A word that stands alone also stands where no token goes on. -/
theorem StandsAlone.begins (h : w.StandsAlone) (hr : Parted rest) :
    Begins (w.text ++ rest) [w] rest := by
  obtain ⟨hlex, hstops⟩ := standsAlone_iff.1 h
  refine begins_of_lexeme (Lexeme.of_replace hlex (Or.inr hr)) ?_
  obtain ⟨c, r, htext⟩ := List.exists_cons_of_ne_nil (Lexeme.of_ne_nil hlex)
  rw [htext] at hstops ⊢
  exact hstops

end Word

/-- **What was taken as a token stands alone.** -/
theorem Lexeme.standsAlone {text rest : List Char} {kind : TokenKind}
    (h : of (text ++ rest) = .token kind text rest) (hs : Stops isBlank (text ++ rest)) :
    (⟨kind, text⟩ : Word).StandsAlone := by
  have halone := of_replace h (Or.inr parted_nil)
  rw [List.append_nil] at halone
  refine Word.standsAlone_iff.2 ⟨halone, ?_⟩
  obtain ⟨c, r, rfl⟩ := List.exists_cons_of_ne_nil (of_ne_nil h)
  exact hs

/-! ## Tokens of a text -/

namespace Tokens

/-- Every token of a text was taken at its position. -/
theorem exists_lexeme_of_mem {offset : Nat} {s : List Char} {t : Token}
    (h : t ∈ (ofChars offset s).toList) :
    ∃ before after, s = before ++ (t.text.toList ++ after) ∧
      offset + utf8Length before = t.position ∧ Stops isBlank (t.text.toList ++ after) ∧
      Lexeme.of (t.text.toList ++ after) = .token t.kind t.text.toList after := by
  fun_induction ofChars offset s with
  | case1 offset s start kind text rest hlex ih =>
    have happend : text ++ rest = trimStart s := Lexeme.of_append hlex
    have hs : s.takeWhile isBlank ++ (text ++ rest) = s :=
      happend ▸ List.takeWhile_append_dropWhile
    rcases List.mem_cons.1 h with rfl | h
    · refine ⟨s.takeWhile isBlank, rest, ?_, rfl, ?_, ?_⟩
      · rw [String.toList_ofList, hs]
      · rw [String.toList_ofList, happend]
        exact stops_dropWhile isBlank s
      · rw [String.toList_ofList, happend]
        exact hlex
    · obtain ⟨before, after, hrest, hposition, hstops, hof⟩ := ih h
      refine ⟨s.takeWhile isBlank ++ (text ++ before), after, ?_, ?_, hstops, hof⟩
      · rw [List.append_assoc, List.append_assoc, ← hrest, hs]
      · rw [← hposition, utf8Length_append, utf8Length_append, ← Nat.add_assoc, ← Nat.add_assoc]
  | case2 => exact absurd h (by simp [toList])
  | case3 => exact absurd h (by simp [toList])

theorem standsAlone_of_mem {text : String} {t : Token} (h : t ∈ (ofText text).toList) :
    t.word.StandsAlone := by
  obtain ⟨_, _, _, _, hstops, hof⟩ := exists_lexeme_of_mem h
  exact Lexeme.standsAlone hof hstops

theorem isLongestIn_of_mem {text : String} {t : Token} (h : t ∈ (ofText text).toList) :
    t.IsLongestIn text.toList := by
  obtain ⟨before, after, htext, hposition, _, hof⟩ := exists_lexeme_of_mem h
  refine ⟨before, after, htext, by rw [← hposition, Nat.zero_add], fun kind longer hp hlonger => ?_⟩
  exact Lexeme.length_le_of_prefix hof hp (Word.standsAlone_iff.1 hlonger).1

/-! ## Joined tokens -/

/-- Words that stand alone stay what they are with blanks between them. -/
theorem begins_joined {ws : List Word} (h : ∀ w ∈ ws, w.StandsAlone) {rest : List Char}
    (hr : Parted rest) : Begins ([' '].intercalate (ws.map Word.text) ++ rest) ws rest := by
  induction ws with
  | nil => exact fun offset => ⟨offset, .none⟩
  | cons w ws ih =>
    obtain ⟨hw, hws⟩ := List.forall_mem_cons.1 h
    cases ws with
    | nil => simpa using hw.begins hr
    | cons v vs =>
      rw [List.map_cons, List.map_cons, List.intercalate_cons_cons, List.append_assoc,
        List.append_assoc]
      exact (hw.begins (parted_blank rfl _)).cons (.blank rfl (ih hws))

theorem toList_joined (ts : List Token) :
    (joined ts).toList = [' '].intercalate ((ts.map Token.word).map Word.text) := by
  rw [joined, String.toList_intercalate, List.map_map, List.map_map]
  rfl

/-- Joined tokens that stand alone are cut into their words, up to the end of the condition. -/
theorem words_joined_append {ts : List Token} (h : ∀ t ∈ ts, t.word.StandsAlone) {rest : String}
    (hr : Ended (trimStart rest.toList)) :
    (ofText (joined ts ++ rest)).IsComplete ∧
      (ofText (joined ts ++ rest)).words = ts.map Token.word := by
  have hblanks : ∀ c ∈ rest.toList.takeWhile isBlank, isBlank c = true := forall_mem_takeWhile
  have hrest : rest.toList.takeWhile isBlank ++ trimStart rest.toList = rest.toList :=
    List.takeWhile_append_dropWhile
  have hparted : Parted rest.toList := by
    rw [← hrest]
    cases hspan : rest.toList.takeWhile isBlank with
    | nil => exact hr.parted
    | cons c r => exact parted_blank (hblanks c (by simp [hspan])) _
  have hbegins := begins_joined (List.forall_mem_map.2 h) hparted
  rw [← toList_joined, ← String.toList_append] at hbegins
  obtain ⟨offset, htake⟩ := hbegins 0
  have hend : ofChars offset rest.toList = .finish _ := hrest ▸ ofChars_finish hblanks hr
  rw [hend] at htake
  refine ⟨htake.isComplete_iff.2 (isComplete_finish _), ?_⟩
  have hwords := htake.words
  rwa [words_finish, List.append_nil] at hwords

/-- **Every token stands on its own.** The tokens of a text, joined with blanks between them, are
cut into the same words again, and the end comes after them. Each of them is cut alone as it was in
the text, where no longer part from its place on is one token. And tokens may be taken from any
texts, in any order: joined, they are what they were, also with blanks after them or with a text
that was cut off at the end of the condition. -/
theorem words_joined (text : String) :
    ((ofText (joined (ofText text).toList)).IsComplete ∧
      (ofText (joined (ofText text).toList)).words = (ofText text).words) ∧
    (∀ t ∈ (ofText text).toList, t.word.StandsAlone ∧ t.IsLongestIn text.toList) ∧
    ∀ ts : List Token, (∀ t ∈ ts, ∃ source, t ∈ (ofText source).toList) →
      ∀ rest : String, Ended (trimStart rest.toList) →
        (ofText (joined ts ++ rest)).IsComplete ∧
          (ofText (joined ts ++ rest)).words = ts.map Token.word := by
  have hany : ∀ ts : List Token, (∀ t ∈ ts, ∃ source, t ∈ (ofText source).toList) →
      ∀ rest : String, Ended (trimStart rest.toList) →
        (ofText (joined ts ++ rest)).IsComplete ∧
          (ofText (joined ts ++ rest)).words = ts.map Token.word := by
    intro ts hts rest hr
    refine words_joined_append (fun t ht => ?_) hr
    obtain ⟨source, hsource⟩ := hts t ht
    exact standsAlone_of_mem hsource
  refine ⟨?_, fun t ht => ⟨standsAlone_of_mem ht, isLongestIn_of_mem ht⟩, hany⟩
  have hsame := hany (ofText text).toList (fun t ht => ⟨text, ht⟩) "" ended_nil
  rwa [String.append_empty] at hsame

/-- In `1.2.3<x-1'it''s':no` nothing stands between the tokens, and the condition ends before the
colon. Three of them, in another order, are also what they were. -/
theorem words_joined_touching :
    (ofText "1.2 . 3 < x-1 'it''s'").words = (ofText "1.2.3<x-1'it''s':no").words ∧
      (⟨.keyword, "x-1", 6⟩ : Token).IsLongestIn "1.2.3<x-1'it''s':no".toList ∧
      (ofText "'it''s' < 1.2 \x7d").words =
        [⟨.string, "'it''s'".toList⟩, ⟨.less, ['<']⟩, ⟨.number, "1.2".toList⟩] := by
  have htokens : (ofText "1.2.3<x-1'it''s':no").toList =
      [⟨.number, "1.2", 0⟩, ⟨.dot, ".", 3⟩, ⟨.number, "3", 4⟩, ⟨.less, "<", 5⟩,
        ⟨.keyword, "x-1", 6⟩, ⟨.string, "'it''s'", 9⟩] := by decide +kernel
  obtain ⟨⟨_, hwords⟩, hsingle, hany⟩ := words_joined "1.2.3<x-1'it''s':no"
  refine ⟨?_, (hsingle _ (by simp [htokens])).2, ?_⟩
  · rw [htokens] at hwords
    exact hwords
  · have hchosen : ∀ t ∈ [(⟨.string, "'it''s'", 9⟩ : Token), ⟨.less, "<", 5⟩, ⟨.number, "1.2", 0⟩],
        t ∈ (ofText "1.2.3<x-1'it''s':no").toList := by
      rw [htokens]
      decide
    have hend : Ended (trimStart " \x7d".toList) := ended_cons.2 (by decide)
    exact (hany _ (fun t ht => ⟨_, hchosen t ht⟩) " \x7d" hend).2

end Tokens

end LogFilter
