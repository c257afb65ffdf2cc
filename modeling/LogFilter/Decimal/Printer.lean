import LogFilter.Decimal.Shortest

/-!
# Writing doubles

One printer for doubles, and a record of the decisions that differ from format to format.
-/

namespace LogFilter.Decimal

/-- The decisions of a format for doubles. -/
structure DoubleStyle where
  /-- Where a value goes that lies halfway between two shortest decimals. -/
  tie : Tie
  /-- Whether a whole number is written with all its digits, not only those that tell it apart. -/
  wholeExact : Bool
  /-- Whether a number between `10 ^ (p - 1)` and `10 ^ p` is written without an exponent. -/
  isPositional : Int → Bool

/-- Decimal digits of a number, without leading zeros. -/
def digitChars (n : Nat) : List Char := Nat.toDigits 10 n

def zeros (n : Nat) : List Char := List.replicate n '0'

/-- A decimal with a point, and at least one digit on either side of it. -/
def positional (d : Digits) : List Char :=
  let ds := digitChars d.coefficient
  let size : Int := ds.length + d.exponent
  if 0 ≤ d.exponent then ds ++ zeros d.exponent.toNat ++ ['.', '0']
  else if 0 < size then ds.take size.toNat ++ ['.'] ++ ds.drop size.toNat
  else ['0', '.'] ++ zeros (-size).toNat ++ ds

/-- A decimal with one digit before the point and a signed exponent. -/
def scientific (d : Digits) : List Char :=
  let ds := digitChars d.coefficient
  let e : Int := ds.length + d.exponent - 1
  let fraction := ds.drop 1
  ds.take 1 ++ (if fraction.isEmpty then [] else '.' :: fraction)
    ++ ['e', if e < 0 then '-' else '+'] ++ digitChars e.natAbs

/-- The text of the finite double of a pattern. -/
def magnitudeText (style : DoubleStyle) (bits : Nat) : List Char :=
  match if style.wholeExact then (dyadicOfBits bits).whole? else none with
  | some n => positional ⟨n, 0⟩
  | none =>
    let d := shortest style.tie bits
    let size : Int := digitCount d.coefficient + d.exponent
    if style.isPositional size then positional d else scientific d

/-- The text of a double; infinities and what is no number have a word each. -/
def doubleText (style : DoubleStyle) (x : Float) : List Char :=
  if isNaN x then "NaN".toList
  else
    let body := if isInfinite x then "Infinity".toList else magnitudeText style (magnitudeBits x)
    if isNegative x then '-' :: body else body

/-- Values show whole numbers in full and never an exponent. -/
def valueStyle : DoubleStyle where
  tie := .up
  wholeExact := true
  isPositional := fun _ => true

/-- JSON text has the shortest digits, and an exponent below `0.00001` and from `10 ^ 16` on. -/
def jsonStyle : DoubleStyle where
  tie := .even
  wholeExact := false
  isPositional := fun size => -5 < size && size ≤ 16

end LogFilter.Decimal
