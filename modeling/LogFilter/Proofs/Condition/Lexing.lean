import LogFilter.Proofs.Condition.Words
import LogFilter.Proofs.Text.Runs

/-!
# Cutting a text into given words

The converse of `Lexeme.of_isProper`: a numeral, a quoted text or the characters of a keyword are
taken as one token, if the text does not go on in a way that would make the token longer.

`Begins s ws rest` says that a text starts with words and what it goes on with, wherever the text
itself starts.
-/

namespace LogFilter

open Text

/-! ## Classes of characters -/

/-- The code points between two ranges of a table are in none of them. -/
theorem covers_eq_false_of_gap {table : RangeTable} {first last n : Nat}
    (hgap : (table.all fun r => r.2.blt first || last.blt r.1) = true)
    (hn : first ≤ n ∧ n ≤ last) : table.covers n = false := by
  rw [← Bool.not_eq_true, RangeTable.covers_iff]
  rintro ⟨r, hr, hle⟩
  have hapart := List.all_eq_true.1 hgap r hr
  simp only [Nat.blt_eq, Bool.or_eq_true] at hapart
  omega

/-- Ranges that hold the blanks above ASCII, and no letter or number. -/
def blankRanges : RangeTable :=
  [(0x85, 0x85), (0xA0, 0xA0), (0x1680, 0x1680), (0x2000, 0x200A), (0x2028, 0x202F),
    (0x205F, 0x205F), (0x3000, 0x3000)]

/-- A table that leaves a gap for each of these ranges covers none of them. -/
theorem covers_eq_false_of_isBlank {table : RangeTable} {c : Char}
    (hgaps : (blankRanges.all fun g => table.all fun r => r.2.blt g.1 || g.2.blt r.1) = true)
    (hb : isBlank c = true) (hlarge : ¬c.toNat < 0x80) : table.covers c.toNat = false := by
  obtain ⟨g, hg, hn⟩ : ∃ g ∈ blankRanges, g.1 ≤ c.toNat ∧ c.toNat ≤ g.2 := by
    have hcode := toNat_mem_blankCodes hb
    simp [blankCodes, blankRanges] at hcode ⊢
    omega
  exact covers_eq_false_of_gap (List.all_eq_true.1 hgaps g hg) hn

theorem not_isBlank_of_startsKeyword {c : Char} (h : Lexeme.startsKeyword c = true) :
    isBlank c = false := by
  rw [← Bool.not_eq_true]
  intro hb
  by_cases hsmall : c.toNat < 0x80
  · have hascii : ∀ n ∈ blankCodes.filter (· < 0x80),
        Lexeme.startsKeyword (Char.ofNat n) = false := by decide +kernel
    have hmem : c.toNat ∈ blankCodes.filter (· < 0x80) := by
      simpa [hsmall] using toNat_mem_blankCodes hb
    have hstarts := hascii c.toNat hmem
    rw [Char.ofNat_toNat, h] at hstarts
    exact absurd hstarts (by decide)
  · have hcovers : alphabeticTable.covers c.toNat = false :=
      covers_eq_false_of_isBlank (by decide +kernel) hb hsmall
    have hunderscore : c ≠ '_' := by
      rintro rfl
      exact hsmall (by decide)
    simp [Lexeme.startsKeyword, isAlphabetic, hsmall, hcovers, hunderscore] at h

theorem not_isDigit_of_startsKeyword {c : Char} (h : Lexeme.startsKeyword c = true) :
    c.isDigit = false := by
  have hall : ∀ n ∈ List.range' 48 10, Lexeme.startsKeyword (Char.ofNat n) = false := by
    decide +kernel
  rw [← Bool.not_eq_true]
  intro hd
  have := hall c.toNat (toNat_mem_of_isDigit hd)
  rw [Char.ofNat_toNat, h] at this
  exact absurd this (by decide)

/-! ## Lexemes -/

theorem IsNumeral.head {text : List Char} (h : IsNumeral text) :
    ∃ c r, text = c :: r ∧ c.isDigit = true := by
  rcases h with ⟨hne, hd⟩ | ⟨whole, fraction, rfl, hne, hw, _⟩
  · obtain ⟨c, r, rfl⟩ := List.exists_cons_of_ne_nil hne
    exact ⟨c, r, rfl, hd c (by simp)⟩
  · obtain ⟨c, r, rfl⟩ := List.exists_cons_of_ne_nil hne
    exact ⟨c, _, rfl, hw c (by simp)⟩

namespace Lexeme

theorem of_keyword {text rest : List Char} (h : IsKeyword text)
    (hr : Stops continuesKeyword rest) : of (text ++ rest) = .token .keyword text rest := by
  obtain ⟨c, r, rfl, hc, hd⟩ := h
  have hq : c ≠ '\'' := by
    rintro rfl
    exact absurd hc (by decide)
  rw [List.cons_append, of]
  simp only [not_isDigit_of_startsKeyword hc, Bool.false_eq_true, if_false, hq, hc, if_true,
    takeWhile_append_of_stops hd hr, dropWhile_append_of_stops hd hr]

theorem spanNumber_digits {digits rest : List Char} {seenPoint : Bool}
    (hd : ∀ c ∈ digits, c.isDigit = true) :
    spanNumber seenPoint (digits ++ rest) =
      (digits ++ (spanNumber seenPoint rest).1, (spanNumber seenPoint rest).2) := by
  induction digits with
  | nil => rfl
  | cons c r ih =>
    obtain ⟨hc, hr⟩ := List.forall_mem_cons.1 hd
    simp [spanNumber, hc, ih hr]

theorem spanNumber_stops {rest : List Char} {seenPoint : Bool}
    (hr : Stops (fun c => c.isDigit || c == '.') rest) :
    spanNumber seenPoint rest = ([], rest) := by
  cases rest with
  | nil => rfl
  | cons c r =>
    have hc := hr c (by simp)
    simp only [Bool.or_eq_false_iff, beq_eq_false_iff_ne] at hc
    simp [spanNumber, hc]

theorem spanNumber_numeral {text rest : List Char} (h : IsNumeral text)
    (hr : Stops (fun c => c.isDigit || c == '.') rest) :
    spanNumber false (text ++ rest) = (text, rest) := by
  rcases h with ⟨_, hd⟩ | ⟨whole, fraction, rfl, _, hw, hf⟩
  · simp [spanNumber_digits hd, spanNumber_stops hr]
  · rw [List.append_assoc, spanNumber_digits hw, List.cons_append]
    simp [spanNumber, spanNumber_digits hf, spanNumber_stops hr]

theorem of_number {text rest : List Char} (h : IsNumeral text)
    (hr : Stops (fun c => c.isDigit || c == '.') rest) :
    of (text ++ rest) = .token .number text rest := by
  have hspan := spanNumber_numeral h hr
  obtain ⟨c, r, rfl, hc⟩ := h.head
  rw [List.cons_append] at hspan ⊢
  rw [of, if_pos hc, hspan]

theorem spanString?_quoted {s rest : List Char} (hr : Stops (· == '\'') rest) :
    spanString? (doubleQuotes s ++ '\'' :: rest) = some (doubleQuotes s ++ ['\''], rest) := by
  induction s with
  | nil =>
    cases rest with
    | nil => rfl
    | cons c r =>
      have hc : c ≠ '\'' := by simpa using hr c (by simp)
      simp [doubleQuotes, spanString?, hc]
  | cons c s ih =>
    by_cases hc : c = '\''
    · simp [doubleQuotes, hc, spanString?, ih]
    · simp [doubleQuotes, hc, spanString?, ih]

theorem of_quoted {s : String} {rest : List Char} (hr : Stops (· == '\'') rest) :
    of (quotedText s ++ rest) = .token .string (quotedText s) rest := by
  have hspan : spanString? (doubleQuotes s.toList ++ ['\''] ++ rest) = _ :=
    List.append_assoc _ ['\''] rest ▸ spanString?_quoted hr
  have hdigit : ('\'' : Char).isDigit = false := by decide
  rw [quotedText, List.cons_append, of]
  simp only [hdigit, Bool.false_eq_true, if_false, if_true, hspan]

end Lexeme

/-! ## Texts that start with words -/

/-- The tokens of a text without the proof that their recursion ends. -/
theorem Tokens.ofChars_eq (offset : Nat) (s : List Char) :
    ofChars offset s =
      let start := offset + utf8Length (s.takeWhile isBlank)
      match Lexeme.of (trimStart s) with
      | .token kind text rest =>
        .token ⟨kind, String.ofList text, start⟩ (ofChars (start + utf8Length text) rest)
      | .finish => .finish start
      | .failure fault _ _ => .failure fault start := by
  rw [ofChars]
  split <;> next h => simp only [h]

/-- A text starts with words and goes on with another text, wherever it stands. -/
def Begins (s : List Char) (ws : List Word) (rest : List Char) : Prop :=
  ∀ offset, ∃ offset', Tokens.Takes (Tokens.ofChars offset s) ws (Tokens.ofChars offset' rest)

theorem Begins.append {s mid rest : List Char} {ws vs : List Word} (h : Begins s ws mid)
    (h' : Begins mid vs rest) : Begins s (ws ++ vs) rest := by
  intro offset
  obtain ⟨offset', ht⟩ := h offset
  obtain ⟨offset'', ht'⟩ := h' offset'
  exact ⟨offset'', ht.append ht'⟩

theorem Begins.cons {s mid rest : List Char} {w : Word} {vs : List Word} (h : Begins s [w] mid)
    (h' : Begins mid vs rest) : Begins s (w :: vs) rest := h.append h'

/-- A blank before the words does not count. -/
theorem Begins.blank {c : Char} {s rest : List Char} {ws : List Word} (hc : isBlank c = true)
    (h : Begins s ws rest) : Begins (c :: s) ws rest := by
  intro offset
  obtain ⟨offset', ht⟩ := h (offset + c.utf8Size)
  refine ⟨offset', ?_⟩
  have hskip : Tokens.ofChars offset (c :: s) = Tokens.ofChars (offset + c.utf8Size) s := by
    have htrim : trimStart (c :: s) = trimStart s := by simp [trimStart, hc]
    rw [Tokens.ofChars_eq, Tokens.ofChars_eq, htrim]
    simp only [List.takeWhile_cons, hc, if_true, utf8Length_cons, Nat.add_assoc]
  rwa [hskip]

/-- A lexeme is a word. -/
theorem begins_of_lexeme {s text rest : List Char} {kind : TokenKind}
    (h : Lexeme.of s = .token kind text rest) (hs : Stops isBlank s) :
    Begins s [⟨kind, text⟩] rest := by
  intro offset
  have htrim : trimStart s = s := by
    simpa [trimStart] using dropWhile_append_of_stops (List.forall_mem_nil _) hs
  have htake : s.takeWhile isBlank = [] := by
    simpa using takeWhile_append_of_stops (List.forall_mem_nil _) hs
  refine ⟨offset + utf8Length text, ?_⟩
  have hone := Tokens.Takes.one (t := ⟨kind, String.ofList text, offset⟩)
    (r := Tokens.ofChars (offset + utf8Length text) rest)
  rw [Token.word, String.toList_ofList] at hone
  rw [Tokens.ofChars_eq, htrim, h, htake]
  exact hone

theorem begins_keyword {text rest : List Char} (h : IsKeyword text)
    (hr : Stops Lexeme.continuesKeyword rest) :
    Begins (text ++ rest) [⟨.keyword, text⟩] rest := by
  refine begins_of_lexeme (Lexeme.of_keyword h hr) ?_
  obtain ⟨c, r, rfl, hc, _⟩ := h
  intro d hd
  obtain rfl : c = d := by simpa using hd
  exact not_isBlank_of_startsKeyword hc

theorem begins_number {text rest : List Char} (h : IsNumeral text)
    (hr : Stops (fun c => c.isDigit || c == '.') rest) :
    Begins (text ++ rest) [⟨.number, text⟩] rest := by
  refine begins_of_lexeme (Lexeme.of_number h hr) ?_
  obtain ⟨c, r, rfl, hc⟩ := h.head
  intro d hd
  obtain rfl : c = d := by simpa using hd
  exact not_isBlank_of_isDigit hc

theorem begins_quoted {s : String} {rest : List Char} (hr : Stops (· == '\'') rest) :
    Begins (quotedText s ++ rest) [⟨.string, quotedText s⟩] rest := by
  refine begins_of_lexeme (Lexeme.of_quoted hr) ?_
  intro d hd
  obtain rfl : '\'' = d := by simpa [quotedText] using hd
  decide

theorem begins_nil {ws : List Word} {text : String} (h : Begins text.toList ws []) :
    (Tokens.ofText text).IsComplete ∧ (Tokens.ofText text).words = ws := by
  obtain ⟨offset, ht⟩ := h 0
  have hend : Tokens.ofChars offset [] = .finish offset := by
    rw [Tokens.ofChars]
    rfl
  rw [hend] at ht
  refine ⟨ht.isComplete_iff.2 (Tokens.isComplete_finish offset), ?_⟩
  have hwords := ht.words
  rwa [Tokens.words_finish, List.append_nil] at hwords

end LogFilter
