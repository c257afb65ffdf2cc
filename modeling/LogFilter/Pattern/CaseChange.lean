import LogFilter.Pattern.Known

/-!
# Characters that a change of case touches

The properties Changes_When_Lowercased, Changes_When_Uppercased, Changes_When_Titlecased and
Changes_When_Casefolded, and the union of the first three. They say of a character whether the full
mapping of its decomposed form is another text.

Nearly all of them follow from the lower-case mapping of single characters. What it says nothing of
is listed: letters that become several, and letters that share a capital.
-/

namespace LogFilter.CharSet

open Text

/-- Characters with a lower case of their own. -/
def changesInLower : CharSet :=
  unionAll [lowercasePairs.map fun p => (p.1, p.1), [(0x130, 0x130)]]

/-- Characters with a capital that is not the only one with this lower case, or that has several
characters. -/
def furtherSmallLetters : RangeTable := [
  (0xB5, 0xB5), (0x131, 0x131), (0x149, 0x149), (0x17F, 0x17F), (0x1C5, 0x1C5), (0x1C8, 0x1C8),
  (0x1CB, 0x1CB), (0x1F0, 0x1F0), (0x1F2, 0x1F2), (0x345, 0x345), (0x390, 0x390), (0x3B0, 0x3B0),
  (0x3C2, 0x3C2), (0x3D0, 0x3D1), (0x3D5, 0x3D6), (0x3F0, 0x3F1), (0x3F5, 0x3F5), (0x587, 0x587),
  (0x1C80, 0x1C88), (0x1E96, 0x1E9B), (0x1F50, 0x1F50), (0x1F52, 0x1F52), (0x1F54, 0x1F54),
  (0x1F56, 0x1F56), (0x1F88, 0x1F8F), (0x1F98, 0x1F9F), (0x1FA8, 0x1FAF), (0x1FB2, 0x1FB2),
  (0x1FB4, 0x1FB4), (0x1FB6, 0x1FB7), (0x1FBC, 0x1FBC), (0x1FBE, 0x1FBE), (0x1FC2, 0x1FC2),
  (0x1FC4, 0x1FC4), (0x1FC6, 0x1FC7), (0x1FCC, 0x1FCC), (0x1FD2, 0x1FD3), (0x1FD6, 0x1FD7),
  (0x1FE2, 0x1FE4), (0x1FE6, 0x1FE7), (0x1FF2, 0x1FF2), (0x1FF4, 0x1FF4), (0x1FF6, 0x1FF7),
  (0x1FFC, 0x1FFC), (0xFB00, 0xFB06), (0xFB13, 0xFB17)]

/-- Characters with a capital of their own. -/
def changesInUpper : CharSet :=
  unionAll [lowercasePairs.map fun p => (p.2, p.2), furtherSmallLetters]

/-- Characters with a title case of their own. A pair of letters under one code point can be in
title case itself, and Georgian has no title case. -/
def changesInTitle : CharSet :=
  (unionAll [changesInUpper.ranges, [(0x1C4, 0x1C4), (0x1C7, 0x1C7), (0x1CA, 0x1CA),
    (0x1F1, 0x1F1)]]).diff
    ⟨[(0x1C5, 0x1C5), (0x1C8, 0x1C8), (0x1CB, 0x1CB), (0x1F2, 0x1F2), (0x10D0, 0x10FA),
      (0x10FD, 0x10FF), (0x1F88, 0x1F8F), (0x1F98, 0x1F9F), (0x1FA8, 0x1FAF), (0x1FBC, 0x1FBC),
      (0x1FCC, 0x1FCC), (0x1FFC, 0x1FFC)]⟩

/-- Characters whose case folds. Cherokee folds to its capitals, all other scripts to their small
letters. -/
def changesInFolding : CharSet :=
  (unionAll [changesInLower.ranges, [(0xB5, 0xB5), (0xDF, 0xDF), (0x149, 0x149), (0x17F, 0x17F),
    (0x345, 0x345), (0x3C2, 0x3C2), (0x3D0, 0x3D1), (0x3D5, 0x3D6), (0x3F0, 0x3F1),
    (0x3F5, 0x3F5), (0x587, 0x587), (0x13F8, 0x13FD), (0x1C80, 0x1C88), (0x1E9A, 0x1E9B),
    (0x1F80, 0x1F87), (0x1F90, 0x1F97), (0x1FA0, 0x1FA7), (0x1FB2, 0x1FB4), (0x1FB7, 0x1FB7),
    (0x1FC2, 0x1FC4), (0x1FC7, 0x1FC7), (0x1FF2, 0x1FF4), (0x1FF7, 0x1FF7), (0xAB70, 0xABBF),
    (0xFB00, 0xFB06), (0xFB13, 0xFB17)]]).diff ⟨[(0x13A0, 0x13F5)]⟩

/-- Characters that have another lower, upper or title case. -/
def changesInSomeCase : CharSet :=
  unionAll [changesInLower.ranges, changesInUpper.ranges, changesInTitle.ranges]

end LogFilter.CharSet
