/-!
# Sets of code points

A set of code points is a list of inclusive ranges. The tables of this folder are such lists.
-/

namespace LogFilter.Text

/-- Inclusive ranges of code points. -/
abbrev RangeTable := List (Nat × Nat)

/-- Whether some range of the table holds the code point. -/
def RangeTable.covers (table : RangeTable) (n : Nat) : Bool :=
  table.any fun r => r.1 ≤ n && n ≤ r.2

theorem RangeTable.covers_iff {table : RangeTable} {n : Nat} :
    table.covers n = true ↔ ∃ r ∈ table, r.1 ≤ n ∧ n ≤ r.2 := by
  simp [covers, List.any_eq_true]

end LogFilter.Text
