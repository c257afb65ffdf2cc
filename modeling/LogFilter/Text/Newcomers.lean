import LogFilter.Text.AgeTable

/-!
# Characters that patterns do not know

Texts are read by Unicode 17, while patterns stay with Unicode 16. A character that came with
version 17 is therefore a letter in a condition, and an unassigned code point to a pattern.
-/

namespace LogFilter.Text

/-- The last major version that patterns know. -/
def Age.lastKnown : Nat := 16

/-- The versions that patterns know, from the first to the last. -/
def Age.known : List Age := Age.all.filter fun age => age.major ≤ Age.lastKnown

/-- Code points of the later versions. -/
def newcomers : RangeTable :=
  (Age.all.filter fun age => Age.lastKnown < age.major).flatMap Age.added

/-- A version is known, or what it added are newcomers. -/
theorem Age.known_or_newcomers {age : Age} (h : age ∈ Age.all) :
    age ∈ Age.known ∨ ∀ r ∈ age.added, r ∈ newcomers := by
  by_cases hm : age.major ≤ Age.lastKnown
  · exact .inl (List.mem_filter.2 ⟨h, by simpa using hm⟩)
  · refine .inr fun r hr => List.mem_flatMap.2 ⟨age, List.mem_filter.2 ⟨h, ?_⟩, hr⟩
    simpa using hm

end LogFilter.Text
