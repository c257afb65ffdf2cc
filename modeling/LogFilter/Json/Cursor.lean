import LogFilter.Except
import LogFilter.Text.Taken

/-!
# Reading JSON from the left

What the readers of JSON text share: the two ways in which text can be wrong, and blanks.

## Termination

Every loop over elements and every descent into a value goes on with the rest of a `Taken`, so it
ends because that rest is shorter than the text the loop was given.
-/

namespace LogFilter.Json

open Text

/-- Why a text was refused. -/
inductive Fault
  /-- The text is no JSON, or nested too deeply, or a number is out of range. -/
  | malformed
  /-- The text is JSON as far as it was read, but of the wrong shape. -/
  | mismatch
  deriving DecidableEq, Repr

abbrev Reading (α : Type) (s : List Char) := Except Fault (Taken α s)

/-- The blanks of JSON: space, tab, line feed and carriage return. -/
def isJsonBlank (c : Char) : Bool := c = ' ' || c = '\t' || c = '\n' || c = '\r'

def skipBlanks (s : List Char) : List Char := s.dropWhile isJsonBlank

theorem length_skipBlanks_le (s : List Char) : (skipBlanks s).length ≤ s.length :=
  length_dropWhile_le _ s

/-- The rest of a text after a word that it must start with. -/
def expectWord (word : List Char) (s : List Char) : Except Fault { r : List Char // r.length ≤ s.length } :=
  match word, s with
  | [], s => .ok ⟨s, Nat.le_refl _⟩
  | _ :: _, [] => .error .malformed
  | w :: ws, c :: r =>
    if w = c then
      match expectWord ws r with
      | .ok ⟨rest, h⟩ => .ok ⟨rest, Nat.le_succ_of_le h⟩
      | .error e => .error e
    else .error .malformed

/-- The rest of a text after blanks and one character that must come next. -/
def expectChar (c : Char) (s : List Char) : Except Fault { r : List Char // r.length < s.length } :=
  match h : skipBlanks s with
  | [] => .error .malformed
  | d :: r =>
    if d = c then
      .ok ⟨r, by
        have := length_skipBlanks_le s
        rw [h] at this
        exact this⟩
    else .error .malformed

end LogFilter.Json
