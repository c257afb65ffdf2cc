import LogFilter.Text.LowercaseTable
import LogFilter.Text.Newcomers

/-!
# Case folding

The simple case folding of Unicode 16. Two characters differ only in case if they fold to the same
one. Nearly all characters fold to their lower case; those that fold further, or that are small
letters and fold all the same, are listed here.
-/

namespace LogFilter.Text

/-- Code points that fold to another one than their lower case. -/
def extraFoldPairs : List (Nat × Nat) := [
  (0xB5, 0x3BC), (0x17F, 0x73), (0x345, 0x3B9), (0x3C2, 0x3C3), (0x3D0, 0x3B2), (0x3D1, 0x3B8),
  (0x3D5, 0x3C6), (0x3D6, 0x3C0), (0x3F0, 0x3BA), (0x3F1, 0x3C1), (0x3F5, 0x3B5), (0x1C80, 0x432),
  (0x1C81, 0x434), (0x1C82, 0x43E), (0x1C83, 0x441), (0x1C84, 0x442), (0x1C85, 0x442),
  (0x1C86, 0x44A), (0x1C87, 0x463), (0x1C88, 0xA64B), (0x1E9B, 0x1E61), (0x1FBE, 0x3B9),
  (0x1FD3, 0x390), (0x1FE3, 0x3B0), (0xFB05, 0xFB06)]

/-- The members of a run and what they go to. -/
def runPairs (run : Nat × Nat × Nat × Nat) : List (Nat × Nat) :=
  let (first, last, step, image) := run
  (List.range ((last - first) / step + 1)).map fun k => (first + k * step, image + k * step)

/-- The code points of Unicode 16 that have a lower case of one code point, with that one. -/
def lowercasePairs : List (Nat × Nat) :=
  (lowercaseRuns.flatMap runPairs).filter fun p => !newcomers.covers p.1

/-- All code points that fold to another one, with that one. -/
def foldPairs : List (Nat × Nat) := extraFoldPairs ++ lowercasePairs

/-- The same for ASCII letters alone. -/
def asciiFoldPairs : List (Nat × Nat) := runPairs (0x41, 0x5A, 1, 0x61)

end LogFilter.Text
