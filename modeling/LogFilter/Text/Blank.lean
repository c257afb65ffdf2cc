/-!
# Blanks

The 25 code points with the property White_Space of Unicode, and the text that is left when
those at its ends are taken away.
-/

namespace LogFilter.Text

/-- Characters with the property White_Space. -/
def isBlank (c : Char) : Bool :=
  let n := c.toNat
  (9 ≤ n && n ≤ 13) || n == 0x20 || n == 0x85 || n == 0xA0 || n == 0x1680
    || (0x2000 ≤ n && n ≤ 0x200A) || n == 0x2028 || n == 0x2029 || n == 0x202F
    || n == 0x205F || n == 0x3000

/-- Text without the blanks at its start. -/
def trimStart (s : List Char) : List Char := s.dropWhile isBlank

/-- Text without the blanks at its end. -/
def trimEnd (s : List Char) : List Char := (s.reverse.dropWhile isBlank).reverse

/-- Text without the blanks at both ends. -/
def trim (s : List Char) : List Char := trimEnd (trimStart s)

/-- Whether a text has no other characters than blanks. -/
def isBlankText (s : List Char) : Bool := s.all isBlank

theorem length_trimStart_le (s : List Char) : (trimStart s).length ≤ s.length := by
  induction s with
  | nil => simp [trimStart]
  | cons c r ih =>
    unfold trimStart at *
    rw [List.dropWhile_cons]
    split
    · exact Nat.le_succ_of_le ih
    · exact Nat.le_refl _

end LogFilter.Text
