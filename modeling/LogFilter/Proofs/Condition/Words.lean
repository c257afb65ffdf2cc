import LogFilter.Condition.Parser
import LogFilter.Condition.Printer
import LogFilter.Proofs.Text.Runs

/-!
# Words

What a token says without its position, and what is known of the words of a text: numbers are
numerals, strings are quoted, keywords are made of the characters of keywords.

`Takes ts ws rest` says that the tokens `ts` start with the words `ws` and go on with `rest`. The
grammar is written for words and the parser for tokens; this relation stands between them.
-/

namespace LogFilter

/-- What a token says, wherever it stands. -/
structure Word where
  kind : TokenKind
  text : List Char
  deriving DecidableEq, Repr

def Token.word (t : Token) : Word := ⟨t.kind, t.text.toList⟩

namespace Tokens

/-- What the tokens before the end say. -/
def words (ts : Tokens) : List Word := ts.toList.map Token.word

@[simp] theorem words_token (t : Token) (r : Tokens) : (token t r).words = t.word :: r.words := rfl

@[simp] theorem words_finish (position : Nat) : (finish position).words = [] := rfl

/-- Tokens that end with the end of the condition and not with a fault. -/
def IsComplete (ts : Tokens) : Prop := ∃ t, ts.ending = .ok t

@[simp] theorem isComplete_token {t : Token} {r : Tokens} :
    (token t r).IsComplete ↔ r.IsComplete := Iff.rfl

@[simp] theorem isComplete_finish (position : Nat) : (finish position).IsComplete := ⟨_, rfl⟩

theorem not_isComplete_failure {fault : LexicalFault} {position : Nat} :
    ¬(failure fault position).IsComplete := by
  rintro ⟨t, ht⟩
  simp [ending] at ht

/-- Tokens start with words and go on with other tokens. -/
inductive Takes : Tokens → List Word → Tokens → Prop
  | none {ts : Tokens} : Takes ts [] ts
  | more {t : Token} {r rest : Tokens} {ws : List Word} (h : Takes r ws rest) :
      Takes (token t r) (t.word :: ws) rest

theorem Takes.one {t : Token} {r : Tokens} : Takes (token t r) [t.word] r := .more .none

theorem Takes.append {ts mid rest : Tokens} {l r : List Word} (hl : Takes ts l mid)
    (hr : Takes mid r rest) : Takes ts (l ++ r) rest := by
  induction hl with
  | none => exact hr
  | more _ ih => exact .more (ih hr)

theorem Takes.split {ts rest : Tokens} {l r : List Word} (h : Takes ts (l ++ r) rest) :
    ∃ mid, Takes ts l mid ∧ Takes mid r rest := by
  induction l generalizing ts with
  | nil => exact ⟨ts, .none, h⟩
  | cons w l ih =>
    cases h with
    | more h =>
      obtain ⟨mid, h1, h2⟩ := ih h
      exact ⟨mid, .more h1, h2⟩

theorem Takes.cons_inv {ts rest : Tokens} {w : Word} {ws : List Word}
    (h : Takes ts (w :: ws) rest) : ∃ t r, ts = token t r ∧ t.word = w ∧ Takes r ws rest := by
  cases h with
  | more h => exact ⟨_, _, rfl, rfl, h⟩

theorem Takes.middle_inv {ts rest : Tokens} {l r : List Word} {w : Word}
    (h : Takes ts (l ++ w :: r) rest) :
    ∃ t ts', Takes ts l (token t ts') ∧ t.word = w ∧ Takes ts' r rest := by
  obtain ⟨mid, hl, hr⟩ := h.split
  obtain ⟨t, ts', rfl, ht, hr'⟩ := hr.cons_inv
  exact ⟨t, ts', hl, ht, hr'⟩

theorem Takes.nil_inv {ts rest : Tokens} (h : Takes ts [] rest) : ts = rest := by
  cases h
  rfl

theorem Takes.words {ts rest : Tokens} {ws : List Word} (h : Takes ts ws rest) :
    ts.words = ws ++ rest.words := by
  induction h with
  | none => rfl
  | more _ ih => simp [ih]

theorem Takes.ending_eq {ts rest : Tokens} {ws : List Word} (h : Takes ts ws rest) :
    ts.ending = rest.ending := by
  induction h with
  | none => rfl
  | more _ ih => exact ih

theorem Takes.isComplete_iff {ts rest : Tokens} {ws : List Word} (h : Takes ts ws rest) :
    ts.IsComplete ↔ rest.IsComplete := by
  rw [IsComplete, IsComplete, h.ending_eq]

/-- All words are there before the end. -/
theorem takes_words {ts : Tokens} (h : ts.IsComplete) :
    ∃ position, Takes ts ts.words (finish position) := by
  induction ts with
  | token t r ih =>
    obtain ⟨position, hr⟩ := ih (isComplete_token.1 h)
    exact ⟨position, .more hr⟩
  | finish position => exact ⟨position, .none⟩
  | failure => exact absurd h not_isComplete_failure

end Tokens

/-! ## What words are made of -/

/-- Digits, which may have one point after the first ones. -/
def IsNumeral (text : List Char) : Prop :=
  (text ≠ [] ∧ ∀ c ∈ text, c.isDigit = true) ∨
    ∃ whole fraction : List Char, text = whole ++ '.' :: fraction ∧ whole ≠ [] ∧
      (∀ c ∈ whole, c.isDigit = true) ∧ ∀ c ∈ fraction, c.isDigit = true

/-- A character that starts keywords and any number of those with which they go on. -/
def IsKeyword (text : List Char) : Prop :=
  ∃ c r, text = c :: r ∧ Lexeme.startsKeyword c = true ∧
    ∀ d ∈ r, Lexeme.continuesKeyword d = true

/-- A word as it can stand in a text. -/
def Word.IsProper (w : Word) : Prop :=
  match w.kind with
  | .number => IsNumeral w.text
  | .string => ∃ s, w.text = quotedText s
  | .keyword => IsKeyword w.text
  | .endOfInput => False
  | _ => True

namespace Lexeme

theorem spanNumber_true (s : List Char) :
    spanNumber true s = (s.takeWhile Char.isDigit, s.dropWhile Char.isDigit) := by
  induction s with
  | nil => rfl
  | cons c r ih =>
    by_cases hc : c.isDigit = true
    · simp [spanNumber, hc, ih]
    · simp [spanNumber, hc]

/-- The characters of a number are digits, a point and digits, where point and digits may lack. -/
theorem spanNumber_false (s : List Char) :
    (∀ c ∈ (spanNumber false s).1, c.isDigit = true) ∨
      ∃ whole fraction, (spanNumber false s).1 = whole ++ '.' :: fraction ∧
        (∀ c ∈ whole, c.isDigit = true) ∧ ∀ c ∈ fraction, c.isDigit = true := by
  induction s with
  | nil => simp [spanNumber]
  | cons c r ih =>
    by_cases hc : c.isDigit = true
    · simp only [spanNumber, hc, if_true]
      rcases ih with h | ⟨whole, fraction, h, hw, hf⟩
      · exact Or.inl (List.forall_mem_cons.2 ⟨hc, h⟩)
      · exact Or.inr ⟨c :: whole, fraction, by simp [h], List.forall_mem_cons.2 ⟨hc, hw⟩, hf⟩
    · by_cases hp : c = '.'
      · -- after the point only digits are taken
        refine Or.inr ⟨[], r.takeWhile Char.isDigit, ?_, by simp, forall_mem_takeWhile⟩
        simp [spanNumber, hp, spanNumber_true]
      · simp [spanNumber, hc, hp]

theorem isNumeral_spanNumber {c : Char} {r : List Char} (hc : c.isDigit = true) :
    IsNumeral (spanNumber false (c :: r)).1 := by
  have hcons : (spanNumber false (c :: r)).1 = c :: (spanNumber false r).1 := by
    simp [spanNumber, hc]
  rw [hcons]
  rcases spanNumber_false r with h | ⟨whole, fraction, h, hw, hf⟩
  · exact Or.inl ⟨by simp, List.forall_mem_cons.2 ⟨hc, h⟩⟩
  · exact Or.inr ⟨c :: whole, fraction, by simp [h], by simp, List.forall_mem_cons.2 ⟨hc, hw⟩, hf⟩

/-- The characters of a string are those of some text with its quotes doubled. -/
theorem spanString?_doubled {s : List Char} {p : List Char × List Char}
    (h : spanString? s = some p) : ∃ inner, p.1 = Text.doubleQuotes inner ++ ['\''] := by
  fun_induction spanString? s generalizing p with
  | case1 => exact absurd h (by simp)
  | case2 r ih =>
    obtain ⟨q, hq, rfl⟩ := Option.map_eq_some_iff.1 h
    obtain ⟨inner, hi⟩ := ih hq
    exact ⟨'\'' :: inner, by simp [Text.doubleQuotes, hi]⟩
  | case3 r =>
    rw [Option.some.injEq] at h
    exact ⟨[], by simp [← h, Text.doubleQuotes]⟩
  | case4 c r hne hne' ih =>
    obtain ⟨q, hq, rfl⟩ := Option.map_eq_some_iff.1 h
    obtain ⟨inner, hi⟩ := ih hq
    refine ⟨c :: inner, ?_⟩
    have hc : c ≠ '\'' := fun hc => by simp [hc] at hne'
    simp [Text.doubleQuotes, hi, hc]

theorem operator?_isProper {s text rest : List Char} {kind : TokenKind}
    (h : operator? s = some (.token kind text rest)) : (⟨kind, text⟩ : Word).IsProper := by
  unfold operator? at h
  split at h <;> simp only [Option.some.injEq, token.injEq, reduceCtorEq] at h <;>
    obtain ⟨rfl, rfl, rfl⟩ := h <;> trivial

theorem ofPunctuation_isProper {c : Char} {r text rest : List Char} {kind : TokenKind}
    (h : ofPunctuation c r = .token kind text rest) : (⟨kind, text⟩ : Word).IsProper := by
  unfold ofPunctuation punctuation? at h
  split at h
  · split at h
    · next k hk =>
      rw [token.injEq] at h
      obtain ⟨rfl, rfl, rfl⟩ := h
      split at hk <;> simp only [Option.some.injEq, reduceCtorEq] at hk <;> subst hk <;> trivial
    · exact absurd h (by simp)
  · exact absurd h (by simp)

/-- **Every token is a proper word.** -/
theorem of_isProper {s text rest : List Char} {kind : TokenKind}
    (h : of s = .token kind text rest) : (⟨kind, text⟩ : Word).IsProper := by
  unfold of at h
  split at h
  · exact absurd h (by simp)
  · next c r =>
    split at h
    · next hd =>
      rw [token.injEq] at h
      obtain ⟨rfl, rfl, rfl⟩ := h
      exact isNumeral_spanNumber hd
    split at h
    · next hq =>
      split at h
      · next p hp =>
        rw [token.injEq] at h
        obtain ⟨rfl, rfl, rfl⟩ := h
        obtain ⟨inner, hi⟩ := spanString?_doubled hp
        exact ⟨String.ofList inner, by simp [quotedText, hi, hq]⟩
      · exact absurd h (by simp)
    split at h
    · next hk =>
      rw [token.injEq] at h
      obtain ⟨rfl, rfl, rfl⟩ := h
      exact ⟨c, _, rfl, hk, forall_mem_takeWhile⟩
    split at h
    · exact absurd h (by simp)
    · cases ho : operator? (c :: r) with
      | none =>
        rw [ho] at h
        exact ofPunctuation_isProper h
      | some l =>
        rw [ho, Option.getD_some] at h
        exact operator?_isProper (h ▸ ho)

end Lexeme

namespace Tokens

/-- Tokens of which every word is proper. -/
def AreProper (ts : Tokens) : Prop := ∀ w ∈ ts.words, w.IsProper

theorem AreProper.rest {ts rest : Tokens} {ws : List Word} (h : ts.AreProper)
    (ht : Takes ts ws rest) : rest.AreProper := by
  intro w hw
  exact h w (by rw [ht.words]; exact List.mem_append_right _ hw)

/-- **The tokens of a text are proper words.** -/
theorem areProper_ofChars (offset : Nat) (s : List Char) : (ofChars offset s).AreProper := by
  fun_induction ofChars offset s with
  | case1 offset s start kind text rest h ih =>
    intro w hw
    rw [words_token] at hw
    rcases List.mem_cons.1 hw with rfl | hw
    · have := Lexeme.of_isProper h
      simpa [Token.word] using this
    · exact ih w hw
  | case2 => simp [AreProper]
  | case3 => simp [AreProper, words, toList]

end Tokens

end LogFilter
