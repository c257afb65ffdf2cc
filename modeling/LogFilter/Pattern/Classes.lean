import LogFilter.Pattern.Known

/-!
# Classes of characters with a sign of their own

Digits, blanks and word characters, each over all of Unicode and over ASCII alone, and the named
ASCII classes.
-/

namespace LogFilter.CharSet

open Text

/-- Decimal digits. -/
def digits (unicode : Bool) : CharSet :=
  if unicode then category .nd else ⟨[(0x30, 0x39)]⟩

/-- Blanks. Those of ASCII are the space and the five controls from tab to carriage return. -/
def blanks (unicode : Bool) : CharSet :=
  if unicode then
    ⟨[(0x9, 0xD), (0x20, 0x20), (0x85, 0x85), (0xA0, 0xA0), (0x1680, 0x1680), (0x2000, 0x200A),
      (0x2028, 0x2029), (0x202F, 0x202F), (0x205F, 0x205F), (0x3000, 0x3000)]⟩
  else ⟨[(0x9, 0xD), (0x20, 0x20)]⟩

/-- Letters, marks, decimal digits and connectors, over all of Unicode. -/
def unicodeWords : CharSet :=
  let categories := ofCategories fun c => c.isMark || c == .nd || c == .pc
  unionAll [alphabetic.ranges, categories.ranges, [(0x200C, 0x200D)]]

/-- Letters, digits and the underscore of ASCII. -/
def asciiWords : CharSet := ⟨[(0x30, 0x39), (0x41, 0x5A), (0x5F, 0x5F), (0x61, 0x7A)]⟩

/-- Word characters. -/
def words (unicode : Bool) : CharSet := if unicode then unicodeWords else asciiWords

/-- The ASCII class of a name. -/
def asciiClass? (name : String) : Option CharSet :=
  match name with
  | "alnum" => some ⟨[(0x30, 0x39), (0x41, 0x5A), (0x61, 0x7A)]⟩
  | "alpha" => some ⟨asciiLetters⟩
  | "ascii" => some ⟨[(0, 0x7F)]⟩
  | "blank" => some ⟨[(0x9, 0x9), (0x20, 0x20)]⟩
  | "cntrl" => some ⟨[(0, 0x1F), (0x7F, 0x7F)]⟩
  | "digit" => some (digits false)
  | "graph" => some ⟨[(0x21, 0x7E)]⟩
  | "lower" => some ⟨[(0x61, 0x7A)]⟩
  | "print" => some ⟨[(0x20, 0x7E)]⟩
  | "punct" => some ⟨[(0x21, 0x2F), (0x3A, 0x40), (0x5B, 0x60), (0x7B, 0x7E)]⟩
  | "space" => some (blanks false)
  | "upper" => some ⟨[(0x41, 0x5A)]⟩
  | "word" => some asciiWords
  | "xdigit" => some ⟨[(0x30, 0x39), (0x41, 0x46), (0x61, 0x66)]⟩
  | _ => none

end LogFilter.CharSet
