import LogFilter.Proofs.Condition.Lexing

/-!
# What a token depends on

A token depends on its own characters and on the one after it, which shows that the token does not
go on. A text that ends there shows the same, and so does one that goes on with a blank or ends the
condition with a closing brace or a colon. So the tokens of a condition are the tokens of its own
part of a text, whatever follows in the text (`Tokens.exists_part`).
-/

namespace LogFilter

open Text

/-! ## Texts that end a condition -/

/-- The characters that end a condition outside of strings. -/
def endsCondition (c : Char) : Bool := c = '\x7d' || c = ':'

/-- A text where a condition ends: an empty one, or one that starts with the right character. -/
def Ended (s : List Char) : Prop := ∀ c ∈ s.head?, endsCondition c = true

theorem endsCondition_iff {c : Char} : endsCondition c = true ↔ c = '\x7d' ∨ c = ':' := by
  simp [endsCondition]

theorem ended_nil : Ended [] := by simp [Ended]

theorem ended_cons {c : Char} {r : List Char} : Ended (c :: r) ↔ endsCondition c = true := by
  simp [Ended]

theorem Ended.stops {p : Char → Bool} {s : List Char} (h : Ended s)
    (hp : p '\x7d' = false ∧ p ':' = false) : Stops p s := by
  intro c hc
  rcases endsCondition_iff.1 (h c hc) with rfl | rfl
  · exact hp.1
  · exact hp.2

theorem Ended.stops_isBlank {s : List Char} (h : Ended s) : Stops isBlank s := h.stops (by decide)

/-! ## Texts in which no token goes on -/

/-- The characters with which some token goes on: those of keywords and numbers, the second ones of
operators, and the quote, which a string doubles. Alone, `&` and `|` are no tokens that could go on.
-/
def goesOn (c : Char) : Bool :=
  Lexeme.continuesKeyword c || c.isDigit || c = '.' || c = '=' || c = '>' || c = '\''

theorem goesOn_blank {c : Char} (h : isBlank c = true) : goesOn c = false := by
  have hothers : ∀ n ∈ blankCodes, (Char.ofNat n).isDigit = false ∧
      Char.ofNat n ∉ ['-', '.', '=', '>', '\''] := by decide +kernel
  obtain ⟨hdigit, hsign⟩ := hothers c.toNat (toNat_mem_blankCodes h)
  rw [Char.ofNat_toNat] at hdigit hsign
  have hstarts : Lexeme.startsKeyword c = false :=
    Bool.eq_false_iff.2 fun hs => by simp [not_isBlank_of_startsKeyword hs] at h
  have hnumeric : isNumeric c = false := by
    by_cases hsmall : c.toNat < 0x80
    · rw [isNumeric, if_pos hsmall, hdigit]
    · rw [isNumeric, if_neg hsmall]
      exact covers_eq_false_of_isBlank (by decide +kernel) h hsmall
  simp only [Lexeme.startsKeyword, Bool.or_eq_false_iff, decide_eq_false_iff_not] at hstarts
  simp only [List.mem_cons, List.not_mem_nil, or_false, not_or] at hsign
  simp [goesOn, Lexeme.continuesKeyword, isAlphanumeric, hstarts, hnumeric, hdigit, hsign]

/-- A text in which no token goes on, whatever token stands before it. -/
def Parted (s : List Char) : Prop := Stops goesOn s

theorem Ended.parted {s : List Char} (h : Ended s) : Parted s := h.stops (by decide +kernel)

theorem parted_nil : Parted [] := ended_nil.parted

theorem parted_blank {c : Char} (hc : isBlank c = true) (r : List Char) : Parted (c :: r) :=
  stops_cons (goesOn_blank hc) r

theorem Parted.stops {p : Char → Bool} {s : List Char} (h : Parted s)
    (hp : ∀ c, p c = true → goesOn c = true) : Stops p s := by
  intro c hc
  by_contra hpc
  exact absurd (hp c (by simpa using hpc)) (by simp [h c hc])

/-- A text shows as well as another one that the token before it does not go on. -/
def Replaces (rest' rest : List Char) : Prop := rest'.head? = rest.head? ∨ Parted rest'

theorem Stops.replace {p : Char → Bool} {rest rest' : List Char} (h : Stops p rest)
    (hr : Replaces rest' rest) (hp : ∀ c, p c = true → goesOn c = true) : Stops p rest' := by
  rcases hr with hhead | hparted
  · intro c hc
    exact h c (hhead ▸ hc)
  · exact hparted.stops hp

theorem stops_beq_iff {c : Char} {s : List Char} : Stops (· == c) s ↔ ∀ r, s ≠ c :: r := by
  constructor
  · rintro h r rfl
    simpa using h c (by simp)
  · intro h d hd
    obtain ⟨r, rfl⟩ := List.head?_eq_some_iff.1 hd
    simpa using fun hdc : d = c => h r (by rw [hdc])

/-! ## Tokens -/

namespace Lexeme

/-- A number takes nothing where neither a digit nor its first point stands. -/
theorem spanNumber_eq_nil_iff {seenPoint : Bool} {s : List Char} :
    spanNumber seenPoint s = ([], s) ↔ Stops (fun c => c.isDigit || c = '.' && !seenPoint) s := by
  cases s with
  | nil => simp [spanNumber, Stops]
  | cons c r =>
    unfold spanNumber
    simp only [Stops, List.head?_cons, Option.mem_some_iff, forall_eq']
    split
    · next hd => simp [hd]
    · next hd =>
      split
      · next hp => simp [hd, hp]
      · next hp => simp [hd, hp]

theorem spanNumber_replace {seenPoint : Bool} {text rest rest' : List Char}
    (h : spanNumber seenPoint (text ++ rest) = (text, rest)) (hr : Replaces rest' rest) :
    spanNumber seenPoint (text ++ rest') = (text, rest') := by
  induction text generalizing seenPoint with
  | nil =>
    have hstops := spanNumber_eq_nil_iff.1 h
    exact spanNumber_eq_nil_iff.2 (hstops.replace hr (by grind [goesOn]))
  | cons c r ih =>
    rw [List.cons_append, spanNumber] at h ⊢
    split at h
    · next hd =>
      simp only [Prod.mk.injEq, List.cons.injEq, true_and] at h
      rw [if_pos hd, ih (Prod.ext h.1 h.2)]
    · next hd =>
      split at h
      · next hp =>
        simp only [Prod.mk.injEq, List.cons.injEq, true_and] at h
        rw [if_neg hd, if_pos hp, ih (Prod.ext h.1 h.2)]
      · exact absurd (congrArg Prod.fst h) (by simp)

/-- After the quote that ends a string comes no other one. -/
theorem spanString?_stops {s : List Char} {p : List Char × List Char} (h : spanString? s = some p) :
    Stops (· == '\'') p.2 := by
  fun_induction spanString? s generalizing p with
  | case1 => exact absurd h (by simp)
  | case2 r ih | case4 c r _ _ ih =>
    obtain ⟨q, hq, rfl⟩ := Option.map_eq_some_iff.1 h
    have hstops := ih hq
    exact hstops
  | case3 r hr =>
    rw [Option.some.injEq] at h
    subst h
    exact stops_beq_iff.2 hr

/-- The characters with which operators start. -/
theorem operator?_eq_none_iff {c : Char} {r : List Char} :
    operator? (c :: r) = none ↔ c ∉ ['<', '>', '!', '=', '&', '|'] := by
  unfold operator?
  split
  case h_14 _ _ hless _ hgreater _ hnot _ hequal _ hand _ hor =>
    refine iff_of_true rfl fun hc => ?_
    simp only [List.mem_cons, List.not_mem_nil, or_false] at hc
    rcases hc with rfl | rfl | rfl | rfl | rfl | rfl
    exacts [hless _ rfl, hgreater _ rfl, hnot _ rfl, hequal _ rfl, hand _ rfl, hor _ rfl]
  all_goals simp_all

/-- An operator of one character stands where none of two characters starts. -/
theorem operator?_single {c : Char} {kind : TokenKind} {r : List Char}
    (h : (c, kind) ∈ [('<', TokenKind.less), ('>', .greater), ('!', .not), ('=', .equalTo)]) :
    operator? (c :: r) = some (.token kind [c] r) ↔
      Stops (· == '=') r ∧ (c = '<' → Stops (· == '>') r) := by
  simp only [List.mem_cons, Prod.mk.injEq, List.not_mem_nil, or_false] at h
  cases r with
  | nil =>
    rcases h with ⟨rfl, rfl⟩ | ⟨rfl, rfl⟩ | ⟨rfl, rfl⟩ | ⟨rfl, rfl⟩ <;> simp [operator?, Stops]
  | cons d r =>
    rcases h with ⟨rfl, rfl⟩ | ⟨rfl, rfl⟩ | ⟨rfl, rfl⟩ | ⟨rfl, rfl⟩
    · by_cases he : d = '='
      · simp [he, operator?, Stops]
      · by_cases hg : d = '>' <;> simp [he, hg, operator?, Stops]
    all_goals by_cases he : d = '=' <;> simp [he, operator?, Stops]

theorem operator?_replace {s text rest rest' : List Char} {kind : TokenKind}
    (h : operator? s = some (.token kind text rest)) (hr : Replaces rest' rest) :
    operator? (text ++ rest') = some (.token kind text rest') := by
  have single : ∀ {c kind},
      (c, kind) ∈ [('<', TokenKind.less), ('>', .greater), ('!', .not), ('=', .equalTo)] →
      operator? (c :: rest) = some (.token kind [c] rest) →
      operator? (c :: rest') = some (.token kind [c] rest') := by
    intro c kind hc hs
    rw [operator?_single hc] at hs ⊢
    exact ⟨hs.1.replace hr (by simp [goesOn]), fun h => (hs.2 h).replace hr (by simp [goesOn])⟩
  have hs := h
  unfold operator? at hs
  split at hs <;> simp only [Option.some.injEq, token.injEq, reduceCtorEq] at hs <;>
    obtain ⟨rfl, rfl, rfl⟩ := hs
  all_goals first
    | rfl
    | exact single (by decide) h

theorem ofPunctuation_replace {c : Char} {r text rest : List Char} {kind : TokenKind}
    (h : ofPunctuation c r = .token kind text rest) (rest' : List Char) :
    text = [c] ∧ ofPunctuation c rest' = .token kind [c] rest' := by
  unfold ofPunctuation at h ⊢
  split at h
  · next hc =>
    rw [if_pos hc]
    split at h
    · simp only [token.injEq] at h
      obtain ⟨rfl, rfl, rfl⟩ := h
      simp_all
    · exact absurd h (by simp)
  · exact absurd h (by simp)

/-- The same for operators and punctuation together, which start with no character of another
class. -/
theorem symbol_replace {c : Char} {r text rest rest' : List Char} {kind : TokenKind}
    (h : (operator? (c :: r)).getD (ofPunctuation c r) = .token kind text rest)
    (hr : Replaces rest' rest) :
    ∃ t, text = c :: t ∧
      (operator? (c :: (t ++ rest'))).getD (ofPunctuation c (t ++ rest')) =
        .token kind text rest' := by
  cases ho : operator? (c :: r) with
  | none =>
    rw [ho, Option.getD_none] at h
    obtain ⟨rfl, hp⟩ := ofPunctuation_replace h rest'
    refine ⟨[], rfl, ?_⟩
    rw [List.nil_append, operator?_eq_none_iff.2 (operator?_eq_none_iff.1 ho)]
    exact hp
  | some l =>
    obtain rfl : l = .token kind text rest := by simpa [ho] using h
    obtain ⟨happend, hne⟩ := operator?_covers ho
    obtain ⟨d, t, rfl⟩ := List.exists_cons_of_ne_nil hne
    obtain rfl : d = c := (List.cons.inj happend).1
    have hreplaced := operator?_replace ho hr
    rw [List.cons_append] at hreplaced
    exact ⟨t, rfl, by rw [hreplaced, Option.getD_some]⟩

/-- **A token stays the same when the text after it is replaced.** -/
theorem of_replace {s text rest rest' : List Char} {kind : TokenKind}
    (h : of s = .token kind text rest) (hr : Replaces rest' rest) :
    of (text ++ rest') = .token kind text rest' := by
  cases s with
  | nil => exact absurd h (by simp [of])
  | cons c r =>
    rw [of] at h
    split at h
    · next hd =>
      rw [token.injEq] at h
      obtain ⟨rfl, htext, hrest⟩ := h
      have happend := spanNumber_append false (c :: r)
      rw [htext, hrest] at happend
      have hspan : spanNumber false (text ++ rest') = (text, rest') :=
        spanNumber_replace (happend ▸ Prod.ext htext hrest) hr
      obtain ⟨t, rfl⟩ : ∃ t, text = c :: t :=
        ⟨(spanNumber false r).1, by simp [← htext, spanNumber, hd]⟩
      rw [List.cons_append] at hspan ⊢
      rw [of, if_pos hd, hspan]
    split at h
    · next hq =>
      split at h
      · next p hp =>
        rw [token.injEq] at h
        obtain ⟨rfl, rfl, rfl⟩ := h
        obtain ⟨inner, hi⟩ := spanString?_doubled hp
        have hquoted : c :: p.1 = quotedText (String.ofList inner) := by simp [quotedText, hi, hq]
        rw [hquoted]
        exact of_quoted ((spanString?_stops hp).replace hr (by simp [goesOn]))
      · exact absurd h (by simp)
    split at h
    · next hk =>
      rw [token.injEq] at h
      obtain ⟨rfl, rfl, rfl⟩ := h
      refine of_keyword ⟨c, _, rfl, hk, forall_mem_takeWhile⟩ ?_
      exact (stops_dropWhile _ r).replace hr (by simp +contextual [goesOn])
    split at h
    · exact absurd h (by simp)
    · next hd hq hk he =>
      obtain ⟨t, rfl, ht⟩ := symbol_replace h hr
      rw [List.cons_append, of, if_neg hd, if_neg hq, if_neg hk, if_neg he, ht]

theorem symbol_ne_finish (c : Char) (r : List Char) :
    (operator? (c :: r)).getD (ofPunctuation c r) ≠ .finish := by
  unfold operator? ofPunctuation
  split <;> simp only [Option.getD_some, Option.getD_none, ne_eq, reduceCtorEq, not_false_eq_true]
  split
  · split <;> simp
  · simp

/-- **A text has no token at its start and no fault exactly where a condition ends.** -/
theorem of_eq_finish_iff {s : List Char} : of s = .finish ↔ Ended s := by
  cases s with
  | nil => simp [of, ended_nil]
  | cons c r =>
    rw [ended_cons]
    constructor
    · intro h
      rw [of] at h
      split at h
      · exact absurd h (by simp)
      split at h
      · split at h <;> exact absurd h (by simp)
      split at h
      · exact absurd h (by simp)
      split at h
      · next he => simpa [endsCondition] using he
      · exact absurd h (symbol_ne_finish c r)
    · intro h
      have hd : c.isDigit = false ∧ c ≠ '\'' ∧ startsKeyword c = false := by
        rcases endsCondition_iff.1 h with rfl | rfl <;> decide +kernel
      simp [of, hd, endsCondition_iff.1 h]

end Lexeme

/-! ## Sequences of tokens -/

namespace Tokens

/-- The token after blanks. -/
theorem ofChars_token {offset : Nat} {blanks text rest : List Char} {kind : TokenKind}
    (hb : ∀ c ∈ blanks, isBlank c = true) (hs : Stops isBlank (text ++ rest))
    (h : Lexeme.of (text ++ rest) = .token kind text rest) :
    ofChars offset (blanks ++ (text ++ rest)) =
      .token ⟨kind, String.ofList text, offset + utf8Length blanks⟩
        (ofChars (offset + utf8Length blanks + utf8Length text) rest) := by
  have htrim : trimStart (blanks ++ (text ++ rest)) = text ++ rest :=
    dropWhile_append_of_stops hb hs
  rw [ofChars_eq, htrim, takeWhile_append_of_stops hb hs, h]

/-- The end after blanks. -/
theorem ofChars_finish {offset : Nat} {blanks rest : List Char}
    (hb : ∀ c ∈ blanks, isBlank c = true) (hr : Ended rest) :
    ofChars offset (blanks ++ rest) = .finish (offset + utf8Length blanks) := by
  have htrim : trimStart (blanks ++ rest) = rest := dropWhile_append_of_stops hb hr.stops_isBlank
  rw [ofChars_eq, htrim, takeWhile_append_of_stops hb hr.stops_isBlank,
    Lexeme.of_eq_finish_iff.2 hr]

/-- **The tokens of a text up to the end of the condition are those of a part of the text.** What
follows the part may be replaced by any other text that ends the condition. -/
theorem exists_part {offset k : Nat} {s : List Char}
    (h : (ofChars offset s).ending = .ok (endToken k)) :
    ∃ part after, s = part ++ after ∧ offset + utf8Length part = k ∧ Ended after ∧
      ∀ rest, Ended rest → ofChars offset (part ++ rest) = ofChars offset s := by
  fun_induction ofChars offset s with
  | case1 offset s start kind text rest hlex ih =>
    obtain ⟨part, after, hrest, hk, hafter, hsame⟩ := ih h
    have htext : text ++ rest = trimStart s := Lexeme.of_append hlex
    -- a token starts with the character that ends the blanks, whatever follows it
    have hstops : ∀ rest', Stops isBlank (text ++ rest') := by
      obtain ⟨c, t, rfl⟩ := List.exists_cons_of_ne_nil (Lexeme.of_ne_nil hlex)
      have htrim : Stops isBlank (c :: t ++ rest) := htext ▸ stops_dropWhile isBlank s
      exact fun rest' => htrim
    have hs : s.takeWhile isBlank ++ (text ++ rest) = s :=
      htext ▸ List.takeWhile_append_dropWhile
    refine ⟨s.takeWhile isBlank ++ (text ++ part), after, ?_, ?_, hafter, fun rest' hr => ?_⟩
    · rw [List.append_assoc, List.append_assoc, ← hrest, hs]
    · rw [utf8Length_append, utf8Length_append, ← hk]
      omega
    · have hreplaces : Replaces (part ++ rest') rest := by
        cases part with
        | nil => exact Or.inr hr.parted
        | cons c p => exact Or.inl (by rw [hrest]; rfl)
      rw [List.append_assoc, List.append_assoc,
        ofChars_token forall_mem_takeWhile (hstops _) (Lexeme.of_replace hlex hreplaces),
        hsame rest' hr]
  | case2 offset s start hlex =>
    have hended : Ended (trimStart s) := Lexeme.of_eq_finish_iff.1 hlex
    refine ⟨s.takeWhile isBlank, trimStart s, List.takeWhile_append_dropWhile.symm, ?_, hended,
      fun rest hr => ofChars_finish forall_mem_takeWhile hr⟩
    simpa [ending, endToken] using h
  | case3 => exact absurd h (by simp [ending])

end Tokens

end LogFilter
