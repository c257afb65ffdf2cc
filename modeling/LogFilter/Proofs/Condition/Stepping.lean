import LogFilter.Condition.Tokenizer
import LogFilter.Proofs.Condition.Lookahead

/-!
# Reading token by token

A tokenizer can be asked for the next token at any time, also past a token of a kind and past a
keyword, and whoever asks may go on after an error. Whatever is asked in whatever order, the tokens
that are read are parts of the text, one after the other.

A step goes past a part of the unread text and says what it found there (`Tokenizer.Moves`). All
that is said about runs follows from this by induction on the actions, with the invariant that what
was read and what was not make up the text (`Tokenizer.IsWithin`).
-/

namespace LogFilter

open Text

/-! ## Tokens in a text -/

namespace Token

/-- The place after a token. -/
def stop (t : Token) : Nat := t.position + utf8Length t.text.toList

/-- A token has characters, and they stand in a text at its position. The token of the end has none,
and the condition ends at its position. -/
def StandsIn (text : List Char) (t : Token) : Prop :=
  ∃ before after, text = before ++ (t.text.toList ++ after) ∧ utf8Length before = t.position ∧
    if t.kind = .endOfInput then t.text = "" ∧ Ended after else t.text ≠ ""

/-- A token stands in a text, and there are only blanks between it and another token. -/
def Meets (text : List Char) (a b : Token) : Prop :=
  ∃ before blanks after,
    text = before ++ (a.text.toList ++ (blanks ++ (b.text.toList ++ after))) ∧
      utf8Length before = a.position ∧ (∀ c ∈ blanks, isBlank c = true) ∧
      a.stop + utf8Length blanks = b.position

end Token

namespace Tokenizer

/-! ## Actions -/

/-- What can be asked of a tokenizer. -/
inductive Action
  | next
  | expect (kind : TokenKind)
  | eatKeyword

/-- The token that was read, or an error. -/
abbrev Outcome := Except ParseError Token

/-- Does an action. -/
def act (t : Tokenizer) : Action → Step Unit
  | .next => t.next
  | .expect kind => t.expect kind
  | .eatKeyword => (t.eatKeyword.1.map fun _ => (), t.eatKeyword.2)

/-- The token that a step made the current one, or its error. -/
def outcome (s : Step Unit) : Outcome := s.1.map fun _ => s.2.current

/-- Does actions one after the other, also after errors. -/
def run (t : Tokenizer) : List Action → List Outcome × Tokenizer
  | [] => ([], t)
  | a :: as =>
    let s := t.act a
    let r := run s.2 as
    (outcome s :: r.1, r.2)

/-- Whether a token was read, not counting that of the end. -/
def Outcome.isWord : Outcome → Bool
  | .ok a => a.kind ≠ .endOfInput
  | .error _ => false

/-! ## One step -/

/-- How a step can end. -/
inductive Moves (t : Tokenizer) : Outcome → Tokenizer → Prop
  /-- A token was read. -/
  | token {kind : TokenKind} {blanks word rest : List Char}
      (unread : t.unread = blanks ++ (word ++ rest)) (blank : ∀ c ∈ blanks, isBlank c = true)
      (notEmpty : word ≠ []) (notEnd : kind ≠ .endOfInput) :
      Moves t (.ok ⟨kind, String.ofList word, t.offset + utf8Length blanks⟩)
        ⟨⟨kind, String.ofList word, t.offset + utf8Length blanks⟩, rest,
          t.offset + utf8Length blanks + utf8Length word⟩
  /-- The end of the condition was found. -/
  | finish {blanks rest : List Char} (unread : t.unread = blanks ++ rest)
      (blank : ∀ c ∈ blanks, isBlank c = true) (ended : Ended rest) :
      Moves t (.ok ⟨.endOfInput, "", t.offset + utf8Length blanks⟩)
        ⟨⟨.endOfInput, "", t.offset + utf8Length blanks⟩, rest, t.offset + utf8Length blanks⟩
  /-- Nothing was read, but a part of the text may be gone. -/
  | error {e : ParseError} {current : Token} {skipped rest : List Char}
      (unread : t.unread = skipped ++ rest) :
      Moves t (.error e) ⟨current, rest, t.offset + utf8Length skipped⟩

variable {t t' : Tokenizer} {o : Outcome} {text : List Char}

/-- An error may leave everything as it is. -/
theorem moves_refused (t : Tokenizer) (e : ParseError) : Moves t (.error e) t :=
  .error (List.nil_append t.unread).symm

/-- A step depends on the unread text, not on the current token. -/
theorem Moves.of_current {current : Token} (h : Moves { t with current := current } o t') :
    Moves t o t' := by
  cases h with
  | token unread blank notEmpty notEnd => exact .token unread blank notEmpty notEnd
  | finish unread blank ended => exact .finish unread blank ended
  | error unread => exact .error unread

theorem next_of_end (h : t.current.kind = .endOfInput) : t.next = (.error .pastEndOfInput, t) :=
  if_pos h

theorem next_moves (t : Tokenizer) : Moves t (outcome t.next) t.next.2 := by
  by_cases hend : t.current.kind = .endOfInput
  · rw [next_of_end hend]
    exact moves_refused t _
  have hunread : t.unread = t.unread.takeWhile isBlank ++ trimStart t.unread :=
    List.takeWhile_append_dropWhile.symm
  rw [next, if_neg hend]
  cases hlex : Lexeme.of (trimStart t.unread) with
  | token kind word rest =>
    simp only [hlex]
    have hword : t.unread = t.unread.takeWhile isBlank ++ (word ++ rest) := by
      rw [Lexeme.of_append hlex, ← hunread]
    refine .token hword forall_mem_takeWhile (Lexeme.of_ne_nil hlex) ?_
    rintro rfl
    exact Lexeme.of_isProper hlex
  | finish =>
    simp only [hlex]
    exact .finish hunread forall_mem_takeWhile (Lexeme.of_eq_finish_iff.1 hlex)
  | failure fault read rest =>
    simp only [hlex]
    have hread : read ++ rest = trimStart t.unread := by
      have hcovers := Lexeme.of_covers (trimStart t.unread)
      rwa [hlex] at hcovers
    have hskipped : t.unread = t.unread.takeWhile isBlank ++ read ++ rest := by
      rw [List.append_assoc, hread, ← hunread]
    rw [Nat.add_assoc, ← utf8Length_append]
    exact .error hskipped

theorem expect_moves (t : Tokenizer) (kind : TokenKind) :
    Moves t (outcome (t.expect kind)) (t.expect kind).2 := by
  unfold expect
  split
  · exact next_moves t
  · exact moves_refused t _

/-- Eating a keyword is going past a token whose text was taken. -/
theorem act_eatKeyword (h : t.current.kind = .keyword) :
    t.act .eatKeyword = next { t with current := { t.current with text := "" } } := by
  rw [act, eatKeyword, if_pos h]
  rcases next _ with ⟨_ | _, _⟩ <;> rfl

/-- **Every step ends in one of these ways.** -/
theorem act_moves (t : Tokenizer) (a : Action) : Moves t (outcome (t.act a)) (t.act a).2 := by
  cases a with
  | next => exact next_moves t
  | expect kind => exact expect_moves t kind
  | eatKeyword =>
    by_cases hk : t.current.kind = .keyword
    · rw [act_eatKeyword hk]
      exact (next_moves _).of_current
    · have hrefused : t.act .eatKeyword = (.error (.identifierExpected t.current.position), t) := by
        rw [act, eatKeyword, if_neg hk]
        rfl
      rw [hrefused]
      exact moves_refused t _

/-! ## What a step says about the text -/

/-- What was read and what was not make up a text. -/
def IsWithin (text : List Char) (t : Tokenizer) : Prop :=
  ∃ read, text = read ++ t.unread ∧ utf8Length read = t.offset

theorem isWithin_start (text : String) : (start text).IsWithin text.toList := ⟨[], rfl, rfl⟩

/-- A token is found after blanks, and the step ends where the token does. -/
theorem Moves.found {a : Token} (h : Moves t (.ok a) t') :
    ∃ blanks, t.unread = blanks ++ (a.text.toList ++ t'.unread) ∧
      (∀ c ∈ blanks, isBlank c = true) ∧ t.offset + utf8Length blanks = a.position ∧
      a.stop = t'.offset := by
  cases h with
  | @token kind blanks word rest unread blank _ _ =>
    refine ⟨blanks, ?_, blank, rfl, ?_⟩
    · rw [unread, String.toList_ofList]
    · rw [Token.stop, String.toList_ofList]
  | @finish blanks rest unread blank _ => exact ⟨blanks, unread, blank, rfl, rfl⟩

/-- A step goes past a part of the unread text. -/
theorem Moves.passes (h : Moves t o t') :
    ∃ passed, t.unread = passed ++ t'.unread ∧ t.offset + utf8Length passed = t'.offset := by
  cases h with
  | @token kind blanks word rest unread _ _ _ =>
    refine ⟨blanks ++ word, ?_, ?_⟩
    · rw [unread, List.append_assoc]
    · rw [utf8Length_append, Nat.add_assoc]
  | @finish blanks rest unread _ _ => exact ⟨blanks, unread, rfl⟩
  | @error e current skipped rest unread => exact ⟨skipped, unread, rfl⟩

theorem Moves.offset_le (h : Moves t o t') : t.offset ≤ t'.offset := by
  obtain ⟨passed, _, hoffset⟩ := h.passes
  omega

theorem Moves.isWithin (h : Moves t o t') (ht : t.IsWithin text) : t'.IsWithin text := by
  obtain ⟨read, htext, hread⟩ := ht
  obtain ⟨passed, hpassed, hoffset⟩ := h.passes
  refine ⟨read ++ passed, ?_, ?_⟩
  · rw [List.append_assoc, ← hpassed, htext]
  · rw [utf8Length_append, hread, hoffset]

theorem Moves.standsIn {a : Token} (h : Moves t (.ok a) t') (ht : t.IsWithin text) :
    a.StandsIn text := by
  obtain ⟨read, htext, hread⟩ := ht
  obtain ⟨blanks, hunread, _, hposition, _⟩ := h.found
  refine ⟨read ++ blanks, t'.unread, ?_, ?_, ?_⟩
  · rw [List.append_assoc, ← hunread, htext]
  · rw [utf8Length_append, hread, hposition]
  · cases h with
    | @token kind blanks word rest _ _ notEmpty notEnd =>
      rw [if_neg notEnd]
      intro hempty
      have htoList := congrArg String.toList hempty
      rw [String.toList_ofList] at htoList
      exact notEmpty htoList
    | finish _ _ ended => exact ⟨rfl, ended⟩

/-- Between the tokens of two steps in a row there are only blanks. -/
theorem Moves.meets {a b : Token} {t'' : Tokenizer} (h : Moves t (.ok a) t')
    (h' : Moves t' (.ok b) t'') (ht : t.IsWithin text) : a.Meets text b := by
  obtain ⟨read, htext, hread⟩ := ht
  obtain ⟨blanks, hunread, _, hposition, hstop⟩ := h.found
  obtain ⟨blanks', hunread', hblank, hposition', _⟩ := h'.found
  refine ⟨read ++ blanks, blanks', t''.unread, ?_, ?_, hblank, ?_⟩
  · rw [List.append_assoc, ← hunread', ← hunread, htext]
  · rw [utf8Length_append, hread, hposition]
  · rw [hstop, hposition']

/-- A token takes a character at least. -/
theorem Moves.count_le (h : Moves t o t') :
    (if o.isWord then 1 else 0) + t'.unread.length ≤ t.unread.length := by
  have hle : t'.unread.length ≤ t.unread.length := by
    obtain ⟨passed, hpassed, _⟩ := h.passes
    rw [hpassed, List.length_append]
    omega
  cases h with
  | @token kind blanks word rest unread _ notEmpty _ =>
    have hword := List.length_pos_iff.2 notEmpty
    rw [unread, List.length_append, List.length_append]
    split <;> simp only <;> omega
  | finish => simpa [Outcome.isWord] using hle
  | error => simpa [Outcome.isWord] using hle

/-! ## Runs -/

variable {actions : List Action}

theorem standsIn_of_mem_run (ht : t.IsWithin text) {a : Token} (ha : .ok a ∈ (t.run actions).1) :
    a.StandsIn text := by
  induction actions generalizing t with
  | nil => exact absurd ha (by simp [run])
  | cons action as ih =>
    have hmoves := act_moves t action
    rcases List.mem_cons.1 ha with ha | ha
    · exact (ha ▸ hmoves).standsIn ht
    · exact ih (hmoves.isWithin ht) ha

theorem offset_le_of_mem_run {a : Token} (ha : .ok a ∈ (t.run actions).1) :
    t.offset ≤ a.position := by
  induction actions generalizing t with
  | nil => exact absurd ha (by simp [run])
  | cons action as ih =>
    have hmoves := act_moves t action
    rcases List.mem_cons.1 ha with ha | ha
    · obtain ⟨blanks, _, _, hposition, _⟩ := Moves.found (ha ▸ hmoves)
      omega
    · exact Nat.le_trans hmoves.offset_le (ih ha)

theorem run_ordered (t : Tokenizer) (actions : List Action) :
    (t.run actions).1.Pairwise fun x y => ∀ a b, x = .ok a → y = .ok b → a.stop ≤ b.position := by
  induction actions generalizing t with
  | nil => exact .nil
  | cons action as ih =>
    refine .cons ?_ (ih _)
    rintro y hy a b ha rfl
    obtain ⟨_, _, _, _, hstop⟩ := Moves.found (ha ▸ act_moves t action)
    exact hstop ▸ offset_le_of_mem_run hy

theorem run_adjacent (ht : t.IsWithin text) {os os' : List Outcome} {a b : Token}
    (h : (t.run actions).1 = os ++ .ok a :: .ok b :: os') : a.Meets text b := by
  induction actions generalizing t os with
  | nil => exact absurd h (by simp [run])
  | cons action as ih =>
    have hmoves := act_moves t action
    -- the two tokens are read later, or by the first two actions
    cases os with
    | cons o os => exact ih (hmoves.isWithin ht) (List.cons.inj h).2
    | nil =>
      obtain ⟨ha, hrest⟩ := List.cons.inj h
      cases as with
      | nil => exact absurd hrest (by simp [run])
      | cons action' as =>
        obtain ⟨hb, _⟩ := List.cons.inj hrest
        exact (ha ▸ hmoves).meets (hb ▸ act_moves _ action') ht

theorem run_count (t : Tokenizer) (actions : List Action) :
    (t.run actions).1.countP Outcome.isWord ≤ t.unread.length := by
  induction actions generalizing t with
  | nil => exact Nat.zero_le _
  | cons action as ih =>
    have hstep := (act_moves t action).count_le
    have hrest := ih (t.act action).2
    rw [run, List.countP_cons]
    omega

/-- At the end every action fails and changes nothing. -/
theorem act_of_end (h : t.current.kind = .endOfInput) (a : Action) :
    ∃ e, t.act a = (.error e, t) := by
  cases a with
  | next => exact ⟨_, next_of_end h⟩
  | expect kind =>
    by_cases hk : t.current.kind = kind
    · exact ⟨_, (if_pos hk).trans (next_of_end h)⟩
    · exact ⟨_, if_neg hk⟩
  | eatKeyword =>
    have hk : t.current.kind ≠ .keyword := by simp [h]
    refine ⟨.identifierExpected t.current.position, ?_⟩
    rw [act, eatKeyword, if_neg hk]
    rfl

theorem run_of_end (h : t.current.kind = .endOfInput) (actions : List Action) :
    (t.run actions).2 = t ∧ ∀ a, .ok a ∉ (t.run actions).1 := by
  induction actions with
  | nil => exact ⟨rfl, fun a => List.not_mem_nil⟩
  | cons action as ih =>
    obtain ⟨e, he⟩ := act_of_end h action
    rw [run, he]
    refine ⟨ih.1, fun a ha => ?_⟩
    rcases List.mem_cons.1 ha with ha | ha
    · exact absurd ha (by simp [outcome, Except.map])
    · exact ih.2 a ha

/-- What a tokenizer answers agrees with a text. -/
structure Follows (text : List Char) (outcomes : List Outcome) : Prop where
  /-- Every token is a part of the text that is not empty, or the end of the condition. -/
  standsIn : ∀ a, .ok a ∈ outcomes → a.StandsIn text
  /-- No token starts before one that was read earlier has ended. -/
  ordered : outcomes.Pairwise fun x y => ∀ a b, x = .ok a → y = .ok b → a.stop ≤ b.position
  /-- If no error came between two tokens, there are only blanks between them. -/
  adjacent : ∀ os a b os', outcomes = os ++ .ok a :: .ok b :: os' → a.Meets text b
  /-- There are no more tokens than characters. -/
  count : outcomes.countP Outcome.isWord ≤ text.length

theorem follows_start (text : String) (actions : List Action) :
    Follows text.toList ((start text).run actions).1 where
  standsIn _ ha := standsIn_of_mem_run (isWithin_start text) ha
  ordered := run_ordered _ _
  adjacent _ _ _ _ h := run_adjacent (isWithin_start text) h
  count := run_count _ _

/-- **Whatever is asked of the tokenizer of a text, what it answers agrees with the text**, from its
first token on. Once it has come to the end, it stays there, and no more tokens are read. -/
theorem answers_follow {text : String} (h : ofText text = .ok t) (actions : List Action) :
    Follows text.toList (.ok t.current :: (t.run actions).1) ∧
      ∀ u, u = (t.run actions).2 → u.current.kind = .endOfInput →
        u.next = (.error .pastEndOfInput, u) ∧
          ∀ more, (u.run more).2 = u ∧ ∀ a, .ok a ∉ (u.run more).1 := by
  refine ⟨?_, fun u _ hend => ⟨next_of_end hend, run_of_end hend⟩⟩
  -- the first token was read by an action too
  have hrun : ((start text).run (.next :: actions)).1 = .ok t.current :: (t.run actions).1 := by
    unfold ofText at h
    split at h
    · next hnext =>
      obtain rfl := Except.ok.inj h
      rw [run, act, hnext]
      rfl
    · exact absurd h (by simp)
  rw [← hrun]
  exact follows_start text (.next :: actions)

/-- In `no & \x7d` the single `&` is an error, and the condition ends before the brace. -/
theorem answers_follow_incomplete :
    ∃ t u, ofText "no & \x7d" = .ok t ∧ u = (t.run [.eatKeyword, .next]).2 ∧
      Follows "no & \x7d".toList (.ok t.current :: (t.run [.eatKeyword, .next]).1) ∧
      u.current.kind = .endOfInput ∧ u.next = (.error .pastEndOfInput, u) := by
  have h : ofText "no & \x7d" = .ok ⟨⟨.keyword, "no", 0⟩, " & \x7d".toList, 2⟩ := rfl
  have hu : ⟨⟨.endOfInput, "", 5⟩, ['\x7d'], 5⟩ =
      (run ⟨⟨.keyword, "no", 0⟩, " & \x7d".toList, 2⟩ [.eatKeyword, .next]).2 := rfl
  obtain ⟨hfollows, hend⟩ := answers_follow h [.eatKeyword, .next]
  exact ⟨_, _, h, hu, hfollows, rfl, (hend _ hu rfl).1⟩

end Tokenizer

end LogFilter
