import LogFilter.Text.Split

/-!
# Cutting text at a word

A text is cut at the first place where a word stands in it. So the word does not stand in what is
before the cut, `occursIn_of_breakOn`. Conversely a text that was put together around a word is cut
there, if the word stands at no earlier place, `breakOn_append`. At an earlier place the word could
also overlap the one where it was put, so this is asked of the text before with all but the last
character of the word. Words of one character, or of two different ones, do not overlap themselves.

A text is cut at all characters of a kind into pieces. All that is needed of the pieces follows from
two facts: a text cut at one such character has the pieces of what is before it and those of what is
after it, `splitWhere_append`, and a text without such characters is one piece.
-/

namespace LogFilter.Text

variable {sep s before after : List Char}

theorem occursIn_iff_isInfix {word text : List Char} :
    occursIn word text = true ↔ word <:+: text := by
  induction text with
  | nil => simp [occursIn]
  | cons c r ih =>
    rw [occursIn, Bool.or_eq_true, List.isPrefixOf_iff_prefix, ih, List.infix_cons_iff]

/-- A text can be cut at the words that occur in it. -/
theorem breakOn_eq_none_iff {sep s : List Char} :
    breakOn sep s = none ↔ occursIn sep s = false := by
  induction s with
  | nil => cases sep <;> simp [breakOn, occursIn]
  | cons c r ih =>
    by_cases hp : sep.isPrefixOf (c :: r) = true
    · simp [breakOn, occursIn, hp]
    · simp [breakOn, occursIn, hp, ih]

/-- What is before the cut cannot be cut itself. -/
theorem occursIn_of_breakOn (hne : sep ≠ []) (h : breakOn sep s = some (before, after)) :
    occursIn sep before = false := by
  induction s generalizing before with
  | nil =>
    rw [breakOn, if_neg (by simpa using hne)] at h
    exact absurd h (by simp)
  | cons c r ih =>
    rw [breakOn] at h
    split at h
    · next hp =>
      obtain ⟨rfl, -⟩ := Prod.mk.inj (Option.some.inj h)
      cases sep with
      | nil => exact absurd rfl hne
      | cons _ _ => rfl
    · next hp =>
      obtain ⟨p, hbreak, heq⟩ := Option.map_eq_some_iff.1 h
      obtain ⟨rfl, rfl⟩ := Prod.mk.inj heq
      rw [occursIn, ih hbreak, Bool.or_false, ← Bool.not_eq_true, List.isPrefixOf_iff_prefix]
      rw [List.isPrefixOf_iff_prefix] at hp
      intro hstarts
      rw [eq_of_breakOn hbreak] at hp
      exact hp (hstarts.trans (by simp [List.append_assoc]))

/-- **A text is cut where a word was put**, if it stands at no earlier place. -/
theorem breakOn_append (h : occursIn sep (before ++ sep.dropLast) = false) (after : List Char) :
    breakOn sep (before ++ sep ++ after) = some (before, after) := by
  have hne : sep ≠ [] := by
    rintro rfl
    rw [← Bool.not_eq_true, occursIn_iff_isInfix] at h
    exact h (List.nil_infix)
  induction before with
  | nil =>
    obtain ⟨c, r, rfl⟩ := List.exists_cons_of_ne_nil hne
    have hp : (c :: r).isPrefixOf (c :: r ++ after) = true :=
      List.isPrefixOf_iff_prefix.2 (List.prefix_append _ _)
    rw [List.nil_append, List.cons_append] at *
    rw [breakOn, if_pos hp]
    simp
  | cons c before ih =>
    rw [List.cons_append, occursIn, Bool.or_eq_false_iff] at h
    obtain ⟨hhere, hlater⟩ := h
    have hlength : sep.length ≤ (c :: (before ++ sep.dropLast)).length := by
      simp only [List.length_cons, List.length_append, List.length_dropLast]
      omega
    have hpart : c :: (before ++ sep.dropLast) <+: c :: (before ++ sep ++ after) := by
      rw [List.append_assoc, List.cons_prefix_cons, List.prefix_append_right_inj]
      exact ⟨rfl, (List.dropLast_prefix sep).trans (List.prefix_append _ _)⟩
    -- the word is no longer than what was searched before, so it would be found there too
    have hp : ¬sep.isPrefixOf (c :: (before ++ sep ++ after)) = true := by
      rw [← Bool.not_eq_true, List.isPrefixOf_iff_prefix] at hhere
      rw [List.isPrefixOf_iff_prefix]
      exact fun hstarts => hhere (List.prefix_of_prefix_length_le hstarts hpart hlength)
    rw [List.cons_append, List.cons_append, breakOn, if_neg hp, ih hlater, Option.map_some]

/-! ## Words that do not overlap themselves -/

theorem occursIn_singleton_iff {c : Char} : occursIn [c] s = false ↔ c ∉ s := by
  induction s with
  | nil => simp [occursIn]
  | cons d r ih => simp [occursIn, List.isPrefixOf, ih]

theorem breakOn_singleton {c : Char} (h : c ∉ before) (after : List Char) :
    breakOn [c] (before ++ c :: after) = some (before, after) := by
  have hbefore : occursIn [c] (before ++ [c].dropLast) = false := by
    rwa [List.dropLast_singleton, List.append_nil, occursIn_singleton_iff]
  have hcut := breakOn_append hbefore after
  rwa [List.append_assoc] at hcut

/-- A word of two different characters cannot begin in the last character before it. -/
theorem occursIn_pair_append {a b : Char} (hab : a ≠ b) (h : occursIn [a, b] before = false) :
    occursIn [a, b] (before ++ [a]) = false := by
  rw [← Bool.not_eq_true, occursIn_iff_isInfix] at *
  rintro ⟨left, right, heq⟩
  rcases List.eq_nil_or_concat right with rfl | ⟨right, c, rfl⟩
  · have hlast := congrArg List.getLast? heq
    rw [List.append_nil, List.getLast?_append, List.getLast?_append] at hlast
    exact hab (Option.some.inj hlast).symm
  · rw [List.concat_eq_append, ← List.append_assoc] at heq
    exact h ⟨left, right, (List.append_inj' heq rfl).1⟩

theorem breakOn_pair {a b : Char} (hab : a ≠ b) (h : occursIn [a, b] before = false)
    (after : List Char) :
    breakOn [a, b] (before ++ a :: b :: after) = some (before, after) := by
  have hbefore : occursIn [a, b] (before ++ [a, b].dropLast) = false :=
    occursIn_pair_append hab h
  have hcut := breakOn_append hbefore after
  rwa [List.append_assoc] at hcut

/-! ## Cuts at all characters of a kind -/

section

variable {p : Char → Bool}

theorem splitFrom_append {c : Char} (hc : p c = true) (piece s rest : List Char) :
    splitFrom p piece (s ++ c :: rest) = splitFrom p piece s ++ splitWhere p rest := by
  induction s generalizing piece with
  | nil =>
    show splitFrom p piece (c :: rest) = [piece.reverse] ++ splitWhere p rest
    exact if_pos hc
  | cons d r ih =>
    rw [List.cons_append, splitFrom, splitFrom]
    by_cases hd : p d = true
    · rw [if_pos hd, if_pos hd, ih, List.cons_append]
    · rw [if_neg hd, if_neg hd, ih]

/-- **The pieces on both sides of a cut are the pieces of a text.** -/
theorem splitWhere_append {c : Char} (hc : p c = true) (s rest : List Char) :
    splitWhere p (s ++ c :: rest) = splitWhere p s ++ splitWhere p rest :=
  splitFrom_append hc [] s rest

theorem splitFrom_of_forall {s : List Char} (h : ∀ c ∈ s, p c = false) (piece : List Char) :
    splitFrom p piece s = [piece.reverse ++ s] := by
  induction s generalizing piece with
  | nil => rw [splitFrom, List.append_nil]
  | cons d r ih =>
    obtain ⟨hd, hr⟩ := List.forall_mem_cons.1 h
    rw [splitFrom, if_neg (by rw [hd]; decide), ih hr, List.reverse_cons, List.append_assoc]
    rfl

theorem splitWhere_of_forall {s : List Char} (h : ∀ c ∈ s, p c = false) : splitWhere p s = [s] :=
  splitFrom_of_forall h []

end

end LogFilter.Text
