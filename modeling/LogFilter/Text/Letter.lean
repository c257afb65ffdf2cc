import LogFilter.Text.AlphabeticTable
import LogFilter.Text.NumberTable

/-!
# Letters and numbers

The two classes of characters that words are made of. ASCII is answered without a table.
-/

namespace LogFilter.Text

/-- Characters with the property Alphabetic of Unicode. -/
def isAlphabetic (c : Char) : Bool :=
  if c.toNat < 0x80 then c.isAlpha else alphabeticTable.covers c.toNat

/-- Characters whose general category is one of the three of numbers. -/
def isNumeric (c : Char) : Bool :=
  if c.toNat < 0x80 then c.isDigit else numberTable.covers c.toNat

/-- Characters that are alphabetic or numeric. -/
def isAlphanumeric (c : Char) : Bool := isAlphabetic c || isNumeric c

theorem isAlphanumeric_of_isAlphabetic {c : Char} (h : isAlphabetic c = true) :
    isAlphanumeric c = true := by
  simp [isAlphanumeric, h]

end LogFilter.Text
