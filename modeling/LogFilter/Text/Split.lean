/-!
# Searching in text

First occurrences of a word in a text, the cuts made there, and replacement of all of them.
-/

namespace LogFilter.Text

/-- The text before and after the first occurrence of `sep`. -/
def breakOn (sep : List Char) : List Char → Option (List Char × List Char)
  | [] => if sep.isEmpty then some ([], []) else none
  | c :: r =>
    if sep.isPrefixOf (c :: r) then some ([], (c :: r).drop sep.length)
    else (breakOn sep r).map fun p => (c :: p.1, p.2)

/-- Whether `word` occurs somewhere in the text. -/
def occursIn (word : List Char) : List Char → Bool
  | [] => word.isEmpty
  | c :: r => word.isPrefixOf (c :: r) || occursIn word r

/-- What `breakOn` cuts is the text again when the separator is put back. -/
theorem eq_of_breakOn {sep s before after : List Char} (h : breakOn sep s = some (before, after)) :
    s = before ++ sep ++ after := by
  induction s generalizing before with
  | nil =>
    simp only [breakOn] at h
    split at h
    next he => simp_all
    next => simp at h
  | cons c r ih =>
    simp only [breakOn] at h
    split at h
    next hp =>
      obtain ⟨rest, hrest⟩ := List.isPrefixOf_iff_prefix.1 hp
      simp only [Option.some.injEq, Prod.mk.injEq] at h
      obtain ⟨rfl, rfl⟩ := h
      rw [← hrest]
      simp
    next =>
      obtain ⟨p, hp, heq⟩ := Option.map_eq_some_iff.1 h
      simp only [Prod.mk.injEq] at heq
      obtain ⟨rfl, rfl⟩ := heq
      simp [@ih p.1 hp]

/-- The pieces of a text between the characters that satisfy a predicate, of which the first piece
begins with the characters of `piece` in reverse order. -/
def splitFrom (p : Char → Bool) (piece : List Char) : List Char → List (List Char)
  | [] => [piece.reverse]
  | c :: r => if p c then piece.reverse :: splitFrom p [] r else splitFrom p (c :: piece) r

/-- The pieces of a text between the characters that satisfy a predicate. -/
def splitWhere (p : Char → Bool) (s : List Char) : List (List Char) := splitFrom p [] s

/-- Every quote written twice. -/
def doubleQuotes : List Char → List Char
  | [] => []
  | c :: r => if c = '\'' then '\'' :: '\'' :: doubleQuotes r else c :: doubleQuotes r

/-- Every pair of quotes, taken from the left, written once. -/
def halveQuotes : List Char → List Char
  | '\'' :: '\'' :: r => '\'' :: halveQuotes r
  | c :: r => c :: halveQuotes r
  | [] => []

/-- Halving takes back what doubling did. -/
theorem halveQuotes_doubleQuotes (s : List Char) : halveQuotes (doubleQuotes s) = s := by
  induction s with
  | nil => rfl
  | cons c r ih =>
    by_cases h : c = '\''
    · simp [doubleQuotes, h, halveQuotes, ih]
    · simp [doubleQuotes, h, halveQuotes, ih]

/-- Whether two texts are the same when ASCII letters are read in lower case. -/
def sameIgnoringAsciiCase (a b : List Char) : Bool := a.map Char.toLower == b.map Char.toLower

end LogFilter.Text
