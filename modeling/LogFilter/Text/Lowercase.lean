import LogFilter.Text.CasedTable
import LogFilter.Text.CaseIgnorableTable
import LogFilter.Text.LowercaseTable

/-!
# Lower case

The full lower-case mapping of Unicode. It goes character by character but for one letter:

* a capital sigma becomes the final form when a cased character stands before it and none after
  it, where case-ignorable characters are passed over on both sides;
* a capital I with a dot becomes an i and a combining dot, so the text grows by one character.
-/

namespace LogFilter.Text

/-- The image of a code point under the first run that holds it. -/
def lowercaseIn : List (Nat × Nat × Nat × Nat) → Nat → Option Nat
  | [], _ => none
  | (first, last, step, image) :: rest, n =>
    if n < first then none
    else if n ≤ last && (n - first) % step == 0 then some (image + (n - first))
    else lowercaseIn rest n

/-- The lower case of a character, leaving aside the context of a sigma. -/
def lowerChar (c : Char) : List Char :=
  if c.toNat < 0x80 then [c.toLower]
  else if c = 'İ' then ['i', '\u0307']
  else match lowercaseIn lowercaseRuns c.toNat with
    | some n => [Char.ofNat n]
    | none => [c]

/-- Whether the first character that is not case-ignorable is cased. -/
def casedComesFirst (s : List Char) : Bool :=
  match s.dropWhile fun c => caseIgnorableTable.covers c.toNat with
  | [] => false
  | c :: _ => casedTable.covers c.toNat

/-- The lower case of a text, after the characters of `before` in reverse order. -/
def lowerAfter (before : List Char) : List Char → List Char
  | [] => []
  | c :: r =>
    let image :=
      if c = 'Σ' then
        if casedComesFirst before && !casedComesFirst r then ['ς'] else ['σ']
      else lowerChar c
    image ++ lowerAfter (c :: before) r

/-- The lower case of a text. -/
def lower (s : List Char) : List Char := lowerAfter [] s

end LogFilter.Text
