import LogFilter.Pattern.Basic
import LogFilter.Text.Utf8

/-!
# The weight of patterns

A pattern is refused if the automaton for it would be too large. Its size is estimated in bytes: an
automaton that reads the bytes of UTF-8 from the last to the first has a state for each byte range,
and copies of a repeated pattern count each.
-/

namespace LogFilter

namespace CharSet

/-- A range of code points of one length in UTF-8, cut so that in each part the later bytes run
through all their values or all parts of the range share the earlier ones. `blocks` are the numbers
of code points that so many last bytes can tell apart. -/
def aligned : (blocks : List Nat) → Nat × Nat → List (Nat × Nat)
  | [], range => [range]
  | block :: blocks, (first, last) =>
    if first / block = last / block then [(first, last)]
    else
      let inner := ((first + block - 1) / block * block, (last + 1) / block * block - 1)
      let before := if first < inner.1 then [(first, inner.1 - 1)] else []
      let after := if inner.2 < last then [(inner.2 + 1, last)] else []
      before ++ (if inner.1 ≤ inner.2 then aligned blocks inner else []) ++ after

/-- The ranges of code points with UTF-8 forms of one length. Surrogates have none. -/
def lengthRanges : Text.RangeTable :=
  [(0, 0x7F), (0x80, 0x7FF), (0x800, 0xD7FF), (0xE000, 0xFFFF), (0x10000, lastCodePoint)]

/-- The bytes of a code point in UTF-8. -/
def utf8Bytes (n : Nat) : List Nat :=
  let later (shift : Nat) := 0x80 + (n >>> shift) % 64
  if n < 0x80 then [n]
  else if n < 0x800 then [0xC0 + n / 0x40, later 0]
  else if n < 0x10000 then [0xE0 + n / 0x1000, later 6, later 0]
  else [0xF0 + n / 0x40000, later 12, later 6, later 0]

/-- A range of code points as sequences of ranges of bytes. -/
def byteSequences (range : Nat × Nat) : List (List (Nat × Nat)) :=
  let parts := lengthRanges.filterMap fun r =>
    let part := (max r.1 range.1, min r.2 range.2)
    if part.1 ≤ part.2 then some part else none
  (parts.flatMap (aligned [0x40, 0x1000, 0x40000])).map fun p => (utf8Bytes p.1).zip (utf8Bytes p.2)

/-- How many elements two lists have in common at their starts. -/
def commonLength : List (Nat × Nat) → List (Nat × Nat) → Nat
  | a :: as, b :: bs => if a = b then commonLength as bs + 1 else 0
  | _, _ => 0

/-- How many different starts some sequences in order have, and how many there are. -/
def countStarts (previous : List (Nat × Nat)) : List (List (Nat × Nat)) → Nat × Nat
  | [] => (0, 0)
  | s :: rest =>
    let (starts, count) := countStarts s rest
    (starts + (s.length - commonLength previous s), count + 1)

/-- The bytes of one state. -/
def stateSize : Nat := 32

/-- The bytes of the automaton for one character of a set. -/
def weight (s : CharSet) : Nat :=
  match s.ranges with
  | [(first, last)] =>
    if first = last then stateSize * (utf8Bytes first).length else classWeight s.ranges
  | ranges => classWeight ranges
where
  /-- The same for a set of several characters. -/
  classWeight (ranges : Text.RangeTable) : Nat :=
    if ranges.all fun r => r.2 < 0x80 then 2 * stateSize + 8 * ranges.length
    else
      let (starts, count) := countStarts [] (ranges.flatMap byteSequences)
      stateSize * (starts + 2) + 4 * count

end CharSet

namespace Pattern

/-- The largest automaton, in bytes. -/
def weightLimit : Nat := 10 * 0x100000

/-- Whether a pattern describes no other text than the empty one. -/
def isZeroWidth : Pattern Atom → Bool
  | empty => true
  | atom (.set _) => false
  | atom (.anchor _) => true
  | sequence p q => p.isZeroWidth && q.isZeroWidth
  | choice p q => p.isZeroWidth && q.isZeroWidth
  | group p => p.isZeroWidth
  | repeated p _ max => p.isZeroWidth || max = some 0

/-- The bytes of the automaton for a pattern. -/
def weight : Pattern Atom → Nat
  | empty => CharSet.stateSize
  | atom (.set s) => s.weight
  | atom (.anchor _) => CharSet.stateSize
  | sequence p q => p.weight + q.weight
  | choice p q => p.weight + q.weight + 2 * CharSet.stateSize + 8
  | group p => p.weight + 2 * CharSet.stateSize
  | repeated p min max =>
    let (min, max) := if p.isZeroWidth then (Nat.min min 1, some (Nat.min (max.getD 1) 1)) else (min, max)
    let branch := CharSet.stateSize + 8
    match max with
    | some max => min * p.weight + (max - min) * (p.weight + branch) + CharSet.stateSize
    | none => Nat.max min 1 * p.weight + branch

end Pattern

end LogFilter
