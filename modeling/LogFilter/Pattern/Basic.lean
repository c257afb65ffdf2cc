import LogFilter.Pattern.Classes

/-!
# Patterns

A pattern describes texts: characters of sets, one part after the other, one of several parts,
repetition, and anchors, which take no character but ask what stands around a position.
-/

namespace LogFilter

/-- What an anchor asks about word characters on the two sides of a position. -/
inductive WordEdge
  | boundary
  | noBoundary
  | wordStart
  | wordEnd
  /-- No word character before. -/
  | halfStart
  /-- No word character after. -/
  | halfEnd
  deriving DecidableEq, Repr

/-- Whether an edge lies between a side before and a side after it. -/
def WordEdge.holds : WordEdge → Bool → Bool → Bool
  | boundary, before, after => before != after
  | noBoundary, before, after => before == after
  | wordStart, before, after => !before && after
  | wordEnd, before, after => before && !after
  | halfStart, before, _ => !before
  | halfEnd, _, after => !after

/-- A condition on a position between characters. -/
inductive Anchor
  | textStart
  | textEnd
  /-- The start of a line. With `returns` a carriage return ends a line too, alone or before a line
  feed. -/
  | lineStart (returns : Bool)
  | lineEnd (returns : Bool)
  /-- An edge of words over all of Unicode or over ASCII. -/
  | word (edge : WordEdge) (unicode : Bool)
  deriving DecidableEq, Repr

/-- Whether an anchor holds between two characters, of which there is none at an end of the text. -/
def Anchor.holds (before after : Option Char) : Anchor → Bool
  | textStart => before.isNone
  | textEnd => after.isNone
  | lineStart false => before.isNone || before = some '\n'
  | lineStart true =>
    before.isNone || before = some '\n' || (before = some '\r' && after ≠ some '\n')
  | lineEnd false => after.isNone || after = some '\n'
  | lineEnd true =>
    after.isNone || after = some '\r' || (after = some '\n' && before ≠ some '\r')
  | word edge unicode =>
    let isWord (c : Option Char) := c.any (CharSet.words unicode).holds
    edge.holds (isWord before) (isWord after)

/-- The parts of a pattern that look at the text. -/
inductive Atom
  /-- One character of a set. -/
  | set (s : CharSet)
  | anchor (a : Anchor)
  deriving DecidableEq, Repr

/-- A pattern over atoms of a type. -/
inductive Pattern (α : Type)
  | empty
  | atom (a : α)
  | sequence (first second : Pattern α)
  | choice (left right : Pattern α)
  /-- A group whose text would be remembered. -/
  | group (inner : Pattern α)
  /-- At least `min` times, and at most `max` times if there is such a bound. -/
  | repeated (inner : Pattern α) (min : Nat) (max : Option Nat)
  deriving Repr

namespace Pattern

def map {α β : Type} (f : α → β) : Pattern α → Pattern β
  | empty => empty
  | atom a => atom (f a)
  | sequence p q => sequence (p.map f) (q.map f)
  | choice p q => choice (p.map f) (q.map f)
  | group p => group (p.map f)
  | repeated p min max => repeated (p.map f) min max

/-- Patterns one after the other. -/
def sequenceAll {α : Type} : List (Pattern α) → Pattern α
  | [] => empty
  | [p] => p
  | p :: ps => sequence p (sequenceAll ps)

/-- One of several patterns. -/
def choiceAll {α : Type} : List (Pattern α) → Pattern α
  | [] => empty
  | [p] => p
  | p :: ps => choice p (choiceAll ps)

end Pattern

end LogFilter
