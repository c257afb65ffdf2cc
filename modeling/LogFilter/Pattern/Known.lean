import LogFilter.Pattern.CharSet
import LogFilter.Text.AlphabeticTable
import LogFilter.Text.CaseIgnorableTable
import LogFilter.Text.CasedTable
import LogFilter.Text.CategoryTable
import LogFilter.Text.ExtenderTable
import LogFilter.Text.Newcomers

/-!
# What patterns know of characters

The tables of Unicode 17 as they were in version 16: without the newcomers, which were unassigned.
Of the older characters a single one changed its category between the two, U+0295, which was a
small letter before it became a letter without case.
-/

namespace LogFilter.CharSet

open Text

/-- The characters of a table without the newcomers. -/
def known (table : RangeTable) : CharSet := diff ⟨table⟩ ⟨newcomers⟩

/-- The letter that lost its case. -/
def formerSmallLetter : CharSet := ⟨[(0x295, 0x295)]⟩

/-- The characters of a general category. -/
def category : Category → CharSet
  | .ll => (known (Category.table .ll)).union formerSmallLetter
  | .lo => (known (Category.table .lo)).diff formerSmallLetter
  | .cn => union ⟨Category.table .cn⟩ ⟨newcomers⟩
  | other => known other.table

/-- The characters of some general categories. Surrogates are left out. -/
def ofCategories (p : Category → Bool) : CharSet :=
  unionAll ((Category.all.filter p).map fun c => (category c).ranges)

/-- Characters with the property Cased. -/
def cased : CharSet := (known casedTable).union formerSmallLetter

/-- Characters with the property Case_Ignorable. -/
def caseIgnorable : CharSet := known caseIgnorableTable

/-- Characters with the property Grapheme_Extend. -/
def graphemeExtend : CharSet := known graphemeExtendTable

/-- ASCII letters. -/
def asciiLetters : RangeTable := [(0x41, 0x5A), (0x61, 0x7A)]

/-- Characters with the property Alphabetic. -/
def alphabetic : CharSet := unionAll [asciiLetters, (known alphabeticTable).ranges]

end LogFilter.CharSet
