/-!
# Reading text from the left

A reader takes something from the start of a text and leaves the rest. Its result carries the proof
that the rest is shorter, so a loop that goes on with the rest ends.
-/

namespace LogFilter.Text

/-- What may be left of a text after reading. -/
abbrev Rest (s : List Char) := { r : List Char // r.length ≤ s.length }

/-- What may be left of a text after something was taken from it. -/
abbrev ShorterRest (s : List Char) := { r : List Char // r.length < s.length }

namespace Rest

/-- All of a text. -/
def all (s : List Char) : Rest s := ⟨s, Nat.le_refl _⟩

/-- All of a text but its first character. -/
def tail {c : Char} {r : List Char} : Rest (c :: r) := ⟨r, Nat.le_succ _⟩

/-- All of a text but its first `count` characters. -/
def drop (count : Nat) (s : List Char) : Rest s := ⟨s.drop count, (List.drop_sublist count s).length_le⟩

/-- What is left of a part of a text as what is left of the text. -/
def within {s t : List Char} (rest : Rest s) (h : s.length ≤ t.length) : Rest t :=
  ⟨rest.1, Nat.le_trans rest.2 h⟩

/-- What is left after the first character and more. -/
def afterFirst {c : Char} {r : List Char} (rest : Rest r) : ShorterRest (c :: r) :=
  ⟨rest.1, Nat.lt_succ_of_le rest.2⟩

end Rest

/-- What is left of a part of a text as what is left of the text. -/
def ShorterRest.within {s t : List Char} (rest : ShorterRest s) (h : s.length ≤ t.length) :
    Rest t :=
  ⟨rest.1, Nat.le_trans (Nat.le_of_lt rest.2) h⟩

/-- A value read from the start of `s`, and the rest. -/
structure Taken (α : Type) (s : List Char) where
  value : α
  rest : List Char
  shorter : rest.length < s.length

namespace Taken

/-- A reading of a later part of a text as a reading of the text. -/
def weaken {α : Type} {s t : List Char} (h : s.length ≤ t.length) (taken : Taken α s) :
    Taken α t :=
  ⟨taken.value, taken.rest, Nat.lt_of_lt_of_le taken.shorter h⟩

/-- A reading of a shorter part of a text as a reading of the text. -/
def later {α : Type} {s t : List Char} (h : s.length < t.length) (taken : Taken α s) : Taken α t :=
  taken.weaken (Nat.le_of_lt h)

/-- A reading of what follows the first character as a reading of the text. -/
def afterFirst {α : Type} {c : Char} {r : List Char} (taken : Taken α r) : Taken α (c :: r) :=
  taken.weaken (Nat.le_succ _)

/-- The first character, as what stands for a value. -/
def first {α : Type} {c : Char} {r : List Char} (value : α) : Taken α (c :: r) :=
  ⟨value, r, Nat.lt_succ_self _⟩

/-- A value and what is left where it was read. -/
def of {α : Type} {s : List Char} (value : α) (rest : ShorterRest s) : Taken α s :=
  ⟨value, rest.1, rest.2⟩

/-- What is left after a reading. -/
def left {α : Type} {s : List Char} (taken : Taken α s) : ShorterRest s :=
  ⟨taken.rest, taken.shorter⟩

def map {α β : Type} {s : List Char} (f : α → β) (taken : Taken α s) : Taken β s :=
  ⟨f taken.value, taken.rest, taken.shorter⟩

/-- The same value with less left, as by a reader that passes over what follows. -/
def leave {α : Type} {s : List Char} (taken : Taken α s) (r : List Char)
    (h : r.length ≤ taken.rest.length) : Taken α s :=
  ⟨taken.value, r, Nat.lt_of_le_of_lt h taken.shorter⟩

end Taken

theorem length_dropWhile_le (p : Char → Bool) (s : List Char) :
    (s.dropWhile p).length ≤ s.length := by
  induction s with
  | nil => simp
  | cons c r ih =>
    rw [List.dropWhile_cons]
    split
    · exact Nat.le_succ_of_le ih
    · exact Nat.le_refl _

end LogFilter.Text
