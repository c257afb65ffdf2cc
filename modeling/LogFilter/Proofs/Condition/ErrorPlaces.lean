import LogFilter.Proofs.Condition.Embedding
import LogFilter.Proofs.Condition.Origins
import LogFilter.Proofs.Condition.Reproduction

/-!
# The places of errors

An error with a position points into the text: the bytes up to there are those of whole characters,
and what the error says of a token or of a character is what stands there (`ParseError.Fits`).

The error arises at one of the tokens, and the tokens after some words are those of a part of the
text (`Tokens.takes_ofChars`), so it only remains to compare the first token, or the fault in its
place, with the text that it was cut from.
-/

namespace LogFilter

open Text

/-! ## What errors say about a text -/

/-- After an opening quote comes a closing one. A quote closes if it is not the first half of a
doubled one; before it stand other characters and doubled quotes. -/
def HasClosingQuote (s : List Char) : Prop :=
  ∃ inner rest, s = doubleQuotes inner ++ '\'' :: rest ∧ Stops (· == '\'') rest

/-- A fault is what is wrong at the start of a text. -/
def LexicalFault.Fits : LexicalFault → List Char → Prop
  | unterminatedString, s => ∃ r, s = '\'' :: r ∧ ¬HasClosingQuote r
  | incompleteOperator found, s => ∃ r, s = found :: r ∧ Stops (· == found) r
  | invalidPunctuation found, s => s.head? = some found
  | invalidToken found, s => s.head? = some found

/-- A text starts with the text of a token, which is empty only if the condition ends there. -/
def StartsWithText (s : List Char) (text : String) : Prop :=
  text.toList <+: s ∧ (text = "" → Ended s)

/-- What an error says fits the text from its place on. -/
def ParseError.Fits : ParseError → List Char → Prop
  | lexical fault _, s => fault.Fits s
  | expectedToken _ _ text _, s => StartsWithText s text
  | unexpectedToken text _, s => StartsWithText s text
  | _, _ => True

/-! ## Faults -/

namespace Lexeme

theorem not_hasClosingQuote {s : List Char} (h : spanString? s = none) : ¬HasClosingQuote s := by
  rintro ⟨inner, rest, rfl, hrest⟩
  rw [spanString?_quoted hrest] at h
  exact absurd h (by simp)

theorem operator?_fits {s read rest : List Char} {fault : LexicalFault}
    (h : operator? s = some (.failure fault read rest)) : fault.Fits s := by
  unfold operator? at h
  split at h <;> simp only [Option.some.injEq, failure.injEq, reduceCtorEq] at h
  all_goals
    obtain ⟨rfl, rfl, rfl⟩ := h
    exact ⟨_, rfl, stops_beq_iff.2 ‹_›⟩

theorem ofPunctuation_fits {c : Char} {r read rest : List Char} {fault : LexicalFault}
    (h : ofPunctuation c r = .failure fault read rest) : fault.Fits (c :: r) := by
  unfold ofPunctuation at h
  split at h
  · split at h
    · exact absurd h (by simp)
    · obtain ⟨rfl, _⟩ := failure.inj h
      exact rfl
  · obtain ⟨rfl, _⟩ := failure.inj h
    exact rfl

/-- **A fault fits the text in which it was found.** -/
theorem fits_of_failure {s read rest : List Char} {fault : LexicalFault}
    (h : of s = .failure fault read rest) : fault.Fits s := by
  unfold of at h
  split at h
  · exact absurd h (by simp)
  · next c r =>
    split at h
    · exact absurd h (by simp)
    split at h
    · next hq =>
      split at h
      · exact absurd h (by simp)
      · next hspan =>
        obtain ⟨rfl, _⟩ := failure.inj h
        exact ⟨r, by rw [hq], not_hasClosingQuote hspan⟩
    split at h
    · exact absurd h (by simp)
    split at h
    · exact absurd h (by simp)
    · cases ho : operator? (c :: r) with
      | none =>
        rw [ho] at h
        exact ofPunctuation_fits h
      | some l =>
        rw [ho, Option.getD_some] at h
        exact operator?_fits (h ▸ ho)

end Lexeme

/-! ## Tokens and the text they were cut from -/

namespace Tokens

/-- The tokens after some words are those of what is left of the text. -/
theorem takes_ofChars {offset : Nat} {s : List Char} {ws : List Word} {rest : Tokens}
    (h : Takes (ofChars offset s) ws rest) :
    ∃ read unread, s = read ++ unread ∧ rest = ofChars (offset + utf8Length read) unread := by
  induction ws generalizing offset s with
  | nil => exact ⟨[], s, rfl, h.nil_inv.symm⟩
  | cons w ws ih =>
    obtain ⟨t, r, htoken, _, htake⟩ := h.cons_inv
    rw [ofChars_eq] at htoken
    cases hlex : Lexeme.of (trimStart s) with
    | token kind text after =>
      simp only [hlex, token.injEq] at htoken
      obtain ⟨_, rfl⟩ := htoken
      obtain ⟨read, unread, rfl, rfl⟩ := ih htake
      have hs : s = s.takeWhile isBlank ++ (text ++ (read ++ unread)) := by
        rw [Lexeme.of_append hlex]
        exact List.takeWhile_append_dropWhile.symm
      refine ⟨s.takeWhile isBlank ++ (text ++ read), unread, ?_, ?_⟩
      · rw [List.append_assoc, List.append_assoc, ← hs]
      · rw [utf8Length_append, utf8Length_append, ← Nat.add_assoc, ← Nat.add_assoc]
    | finish =>
      simp only [hlex] at htoken
      exact absurd htoken (by simp)
    | failure fault read after =>
      simp only [hlex] at htoken
      exact absurd htoken (by simp)

/-- The place of the first token, or of the fault that is there instead. -/
def start (offset : Nat) (s : List Char) : Nat := offset + utf8Length (s.takeWhile isBlank)

theorem head_ofChars {offset : Nat} {s : List Char} {t : Token}
    (h : (ofChars offset s).head = .ok t) :
    t.position = start offset s ∧ StartsWithText (trimStart s) t.text := by
  rw [ofChars_eq] at h
  cases hlex : Lexeme.of (trimStart s) with
  | token kind text after =>
    simp only [hlex] at h
    obtain rfl := Except.ok.inj h
    refine ⟨rfl, ?_, fun hempty => absurd ?_ (Lexeme.of_ne_nil hlex)⟩
    · rw [String.toList_ofList]
      exact ⟨after, Lexeme.of_append hlex⟩
    · exact String.ofList_injective hempty
  | finish =>
    simp only [hlex] at h
    obtain rfl := Except.ok.inj h
    exact ⟨rfl, List.nil_prefix, fun _ => Lexeme.of_eq_finish_iff.1 hlex⟩
  | failure fault read after =>
    simp only [hlex] at h
    exact absurd h (by simp [head])

theorem ofChars_eq_failure {offset position : Nat} {s : List Char} {fault : LexicalFault}
    (h : ofChars offset s = .failure fault position) :
    position = start offset s ∧ fault.Fits (trimStart s) := by
  rw [ofChars_eq] at h
  cases hlex : Lexeme.of (trimStart s) with
  | token kind text after =>
    simp only [hlex] at h
    exact absurd h (by simp)
  | finish =>
    simp only [hlex] at h
    exact absurd h (by simp)
  | failure fault' read after =>
    simp only [hlex, failure.injEq] at h
    obtain ⟨rfl, rfl⟩ := h
    exact ⟨rfl, Lexeme.fits_of_failure hlex⟩

end Tokens

/-- An error about the first token of a text has its place, and fits the text from there on. -/
theorem ParseError.ArisesAt.fits {env : Surroundings} {offset position : Nat} {s : List Char}
    {error : ParseError} (h : error.ArisesAt env (Tokens.ofChars offset s))
    (hp : error.position? = some position) :
    position = Tokens.start offset s ∧ error.Fits (trimStart s) := by
  generalize hts : Tokens.ofChars offset s = ts at h
  cases h with
  | lexical =>
    obtain rfl := Option.some.inj hp
    exact Tokens.ofChars_eq_failure hts
  | expected hhead hk =>
    obtain rfl := Option.some.inj hp
    exact Tokens.head_ofChars (hts ▸ hhead)
  | unexpected hhead =>
    obtain rfl := Option.some.inj hp
    exact Tokens.head_ofChars (hts ▸ hhead)
  | identifier hhead hk =>
    obtain rfl := Option.some.inj hp
    exact ⟨(Tokens.head_ofChars (hts ▸ hhead)).1, trivial⟩
  | number | invalidNumber | unknownLevel | layout | unresolved =>
    exact absurd hp (by simp [position?])

/-! ## Errors of texts -/

/-- **Errors point at what they are about.** The position of an error lies in the text, between two
of its characters, and from there on the text is as the error says. -/
theorem Expr.error_fits {env : Surroundings} {text : String} {error : ParseError} {position : Nat}
    (h : Expr.parse env text = .error error ∨ Expr.parseEmbedded env text = .error error)
    (hp : error.position? = some position) :
    position ≤ text.utf8ByteSize ∧
      ∃ before after : String, text = before ++ after ∧ before.utf8ByteSize = position ∧
        error.Fits after.toList := by
  have hparse : Expr.parse env text = .error error := by
    rcases h with h | h
    · exact h
    · rw [Expr.parse_eq_map, h]
      rfl
  obtain ⟨ws, rest, htake, harises⟩ := Expr.arises_of_parse hparse
  obtain ⟨read, unread, htext, rfl⟩ := Tokens.takes_ofChars htake
  obtain ⟨rfl, hfits⟩ := harises.fits hp
  have hunread : unread = unread.takeWhile isBlank ++ trimStart unread :=
    List.takeWhile_append_dropWhile.symm
  have hsplit : text = String.ofList (read ++ unread.takeWhile isBlank) ++
      String.ofList (trimStart unread) := by
    rw [← String.ofList_append, List.append_assoc, ← hunread, ← htext, String.ofList_toList]
  have hsize : (String.ofList (read ++ unread.takeWhile isBlank)).utf8ByteSize =
      Tokens.start (0 + utf8Length read) unread := by
    rw [← utf8Length_eq_utf8ByteSize, utf8Length_append, Tokens.start, Nat.zero_add]
  refine ⟨?_, _, _, hsplit, hsize, by rwa [String.toList_ofList]⟩
  have htotal := congrArg String.utf8ByteSize hsplit
  rw [String.utf8ByteSize_append, hsize] at htotal
  omega

/-- In `'é' & x` the single sign stands after five bytes, of which the accented letter has two. -/
theorem Expr.error_fits_sign :
    Expr.parse .standard "'é' & x" = .error (.lexical (.incompleteOperator '&') 5) ∧
      ∃ before after : String, "'é' & x" = before ++ after ∧ before.utf8ByteSize = 5 ∧
        (ParseError.lexical (.incompleteOperator '&') 5).Fits after.toList := by
  have htokens : Tokens.ofText "'é' & x" =
      .token ⟨.string, "'é'", 0⟩ (.failure (.incompleteOperator '&') 5) := by
    have hsign : Tokens.ofChars 4 " & x".toList = .failure (.incompleteOperator '&') 5 := by
      rw [Tokens.ofChars_eq]
      rfl
    rw [← hsign, Tokens.ofText, Tokens.ofChars_eq]
    rfl
  have hparse : Expr.parse .standard "'é' & x" =
      .error (.lexical (.incompleteOperator '&') 5) := by
    rw [Expr.parse_eq, htokens, Parser.answer_parseOr, Parser.answer_parseAnd,
      Parser.answer_parseNot, if_neg (by decide), Parser.answer_parseRelation,
      Parser.answer_parseOperand]
    simp only [Bind.bind, Except.bind, Tokens.head, Parser.answer_parseString, Tokens.tail,
      Tokens.advance, Except.map]
  exact ⟨hparse, (Expr.error_fits (Or.inl hparse) rfl).2⟩

end LogFilter
