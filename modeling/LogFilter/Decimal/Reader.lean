import LogFilter.Decimal.Double

/-!
# Reading numbers

Decimal numerals as whole numbers and as doubles. A numeral fills the whole text: blanks around it
are the caller's to take away.

A double is an optional sign and then `inf`, `infinity` or `nan` in any ASCII case, or digits with
at most one point among or around them, at least one digit in all, and an optional exponent. What
lies between two doubles goes to the nearer one, however many digits there are.
-/

namespace LogFilter.Decimal

/-- The value of an ASCII digit. -/
def digitValue (c : Char) : Nat := c.toNat - 48

/-- The number that digits stand for, after those of `n`. -/
def digitsFrom (n : Nat) (s : List Char) : Nat := s.foldl (fun m c => 10 * m + digitValue c) n

/-- The number that digits stand for. -/
def digitsValue (s : List Char) : Nat := digitsFrom 0 s

/-- The sign at the start of a text and the rest; no sign counts as plus. -/
def readSign : List Char → Bool × List Char
  | '-' :: r => (true, r)
  | '+' :: r => (false, r)
  | s => (false, s)

/-- An optional sign and one or more digits. -/
def readInt? (s : List Char) : Option Int :=
  let (negative, digits) := readSign s
  if digits.isEmpty || !digits.all Char.isDigit then none
  else some (if negative then -(digitsValue digits : Int) else digitsValue digits)

/-- A whole number that fits 64 bits with a sign. -/
def readInt64? (s : List Char) : Option Int64 :=
  match readInt? s with
  | some i => if -0x8000000000000000 ≤ i ∧ i < 0x8000000000000000 then some (Int64.ofInt i) else none
  | none => none

/-- The digits before and after the point, and what follows them. -/
def readMantissa (s : List Char) : List Char × List Char × List Char :=
  let whole := s.takeWhile Char.isDigit
  match s.dropWhile Char.isDigit with
  | '.' :: r => (whole, r.takeWhile Char.isDigit, r.dropWhile Char.isDigit)
  | r => (whole, [], r)

/-- The exponent that makes up the rest of a numeral. -/
def readExponent? : List Char → Option Int
  | [] => some 0
  | c :: r => if c = 'e' || c = 'E' then readInt? r else none

/-- The pattern of an unsigned numeral. -/
def readMagnitude? (s : List Char) : Option Nat :=
  let (whole, fraction, rest) := readMantissa s
  if whole.isEmpty && fraction.isEmpty then none
  else (readExponent? rest).map fun e =>
    decimalBits (digitsValue (whole ++ fraction)) (e - fraction.length)

/-- A double from its text. -/
def readDouble? (s : List Char) : Option Float :=
  let (negative, body) := readSign s
  let word := String.ofList (body.map Char.toLower)
  if word = "inf" || word = "infinity" then some (ofBits negative infinityBits)
  else if word = "nan" then some (ofBits negative (infinityBits + 0x8000000000000))
  else (readMagnitude? body).map (ofBits negative)

end LogFilter.Decimal
