import LogFilter.Text.Folding
import LogFilter.Text.RangeTable

/-!
# Sets of characters

The sets that patterns are made of. Only the code points of characters matter; the gap of the
surrogates can lie in a set or not.
-/

namespace LogFilter

/-- A set of characters as ranges of code points, in increasing order and apart from each other. -/
structure CharSet where
  ranges : Text.RangeTable
  deriving DecidableEq, Repr

namespace CharSet

/-- The largest code point. -/
def lastCodePoint : Nat := 0x10FFFF

def empty : CharSet := ⟨[]⟩

def all : CharSet := ⟨[(0, lastCodePoint)]⟩

def singleton (c : Char) : CharSet := ⟨[(c.toNat, c.toNat)]⟩

def holds (s : CharSet) (c : Char) : Bool := s.ranges.covers c.toNat

/-- Adds a range that does not start before the last range put in, which comes first. -/
def joinRange (joined : Text.RangeTable) (range : Nat × Nat) : Text.RangeTable :=
  match joined with
  | (first, last) :: rest =>
    if range.1 ≤ last + 1 then (first, max last range.2) :: rest else range :: joined
  | [] => [range]

/-- The set of the code points in any of some ranges. -/
def ofRanges (ranges : Text.RangeTable) : CharSet :=
  ⟨((ranges.mergeSort fun a b => a.1 ≤ b.1).foldl joinRange []).reverse⟩

def union (a b : CharSet) : CharSet := ofRanges (a.ranges ++ b.ranges)

/-- The set of the characters in any of some sets. -/
def unionAll (sets : List Text.RangeTable) : CharSet := ofRanges sets.flatten

/-- What lies between ranges, from a code point on. -/
def gapsFrom (start : Nat) : Text.RangeTable → Text.RangeTable
  | [] => if start ≤ lastCodePoint then [(start, lastCodePoint)] else []
  | (first, last) :: rest =>
    if start < first then (start, first - 1) :: gapsFrom (last + 1) rest
    else gapsFrom (last + 1) rest

def complement (s : CharSet) : CharSet := ⟨gapsFrom 0 s.ranges⟩

def inter (a b : CharSet) : CharSet := (a.complement.union b.complement).complement

def diff (a b : CharSet) : CharSet := a.inter b.complement

/-- The characters in one of the sets but not in both. -/
def symmDiff (a b : CharSet) : CharSet := (a.union b).diff (a.inter b)

/-- Whether there are only ASCII characters in the set. -/
def isAscii (s : CharSet) : Bool := s.ranges.all fun r => r.2 < 0x80

/-- The set with all characters that differ from one of its own only in case. -/
def foldWith (pairs : List (Nat × Nat)) (s : CharSet) : CharSet :=
  let single (n : Nat) := (n, n)
  let images := pairs.filterMap fun p => if s.ranges.covers p.1 then some (single p.2) else none
  let withImages := ofRanges (s.ranges ++ images)
  let sources := pairs.filterMap fun p =>
    if withImages.ranges.covers p.2 then some (single p.1) else none
  ofRanges (withImages.ranges ++ sources)

/-- Closes the set under case, of all characters or of ASCII letters alone. -/
def fold (unicode : Bool) (s : CharSet) : CharSet :=
  s.foldWith (if unicode then Text.foldPairs else Text.asciiFoldPairs)

end CharSet

end LogFilter
