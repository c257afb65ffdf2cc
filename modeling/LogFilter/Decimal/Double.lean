/-!
# Doubles as exact numbers

A finite double is a whole number times a power of two. This module takes doubles apart into such
products and finds the double next to an exact ratio, all in whole numbers, so that no step of a
conversion depends on machine arithmetic.

## Rounding

`nearestBits` divides by the spacing of doubles around the ratio and rounds the quotient, a half to
the even neighbour. The quotient plus its place on the scale is the bit pattern at once: a quotient
that rounds up to the next power of two carries into the exponent by itself.
-/

namespace LogFilter.Decimal

/-! ## Fields -/

/-- The pattern of a double without its sign. -/
def magnitudeBits (x : Float) : Nat := x.toBits.toNat % 0x8000000000000000

/-- Whether the sign bit is set, which also holds of a negative zero. -/
def isNegative (x : Float) : Bool := 0x8000000000000000 ≤ x.toBits.toNat

/-- The pattern of infinity. Patterns below it are finite, those above are not numbers. -/
def infinityBits : Nat := 0x7FF0000000000000

def isNaN (x : Float) : Bool := infinityBits < magnitudeBits x

def isInfinite (x : Float) : Bool := magnitudeBits x == infinityBits

def isFinite (x : Float) : Bool := magnitudeBits x < infinityBits

/-- The double with the given sign and pattern. -/
def ofBits (negative : Bool) (bits : Nat) : Float :=
  Float.ofBits (UInt64.ofNat ((if negative then 0x8000000000000000 else 0) + bits))

/-- A whole number times a power of two. -/
structure Dyadic where
  coefficient : Nat
  exponent : Int
  deriving DecidableEq, Repr

/-- The bit above the fraction of a pattern, which normal doubles have without showing it. -/
def hiddenBit : Nat := 0x10000000000000

/-- The absolute value of the finite double of a pattern. -/
def dyadicOfBits (bits : Nat) : Dyadic :=
  if bits / hiddenBit = 0 then ⟨bits, -1074⟩
  else ⟨hiddenBit + bits % hiddenBit, (bits / hiddenBit : Nat) - 1075⟩

/-- Numerator and denominator of a dyadic number. -/
def Dyadic.ratio (d : Dyadic) : Nat × Nat :=
  if 0 ≤ d.exponent then (d.coefficient * Nat.pow 2 d.exponent.toNat, 1)
  else (d.coefficient, Nat.pow 2 (-d.exponent).toNat)

/-- The dyadic number as a whole number, if it is one. -/
def Dyadic.whole? (d : Dyadic) : Option Nat :=
  let r := d.ratio
  if r.1 % r.2 = 0 then some (r.1 / r.2) else none

/-- The absolute value of a finite double. -/
def magnitude (x : Float) : Dyadic := dyadicOfBits (magnitudeBits x)

/-- The value of a double that is a whole number. -/
def whole? (x : Float) : Option Int :=
  if isFinite x then
    (magnitude x).whole?.map fun n => if isNegative x then -(n : Int) else n
  else none

/-! ## Order -/

/-- Doubles that are numbers stand in the order of these keys; both zeros have the key zero. -/
def orderKey (x : Float) : Int :=
  if isNegative x then -(magnitudeBits x : Int) else magnitudeBits x

/-- The order of doubles in which a value that is no number comes first and equals itself. -/
def compareDoubles (x y : Float) : Ordering :=
  match isNaN x, isNaN y with
  | true, true => .eq
  | true, false => .lt
  | false, true => .gt
  | false, false => compare (orderKey x) (orderKey y)

/-- Numeric equality: zeros are equal whatever their sign, and what is no number equals nothing. -/
def sameNumber (x y : Float) : Bool := !isNaN x && !isNaN y && orderKey x == orderKey y

/-! ## Rounding -/

/-- The whole number next to `num / den`, a half going to the even neighbour. -/
def roundHalfEven (num den : Nat) : Nat :=
  let n := num / den
  let r := num % den
  if den < 2 * r || (2 * r == den && n % 2 == 1) then n + 1 else n

/-- The exponent of the spacing between doubles at `num / den`. -/
def spacing (num den : Nat) : Int :=
  let k : Int := (num.log2 : Int) - den.log2
  let reached := if 0 ≤ k then den * Nat.pow 2 k.toNat ≤ num else den ≤ num * Nat.pow 2 (-k).toNat
  max ((if reached then k else k - 1) - 52) (-1074)

/-- The pattern of the double next to `num / den`, infinity beyond the largest one. -/
def nearestBits (num den : Nat) : Nat :=
  let q := spacing num den
  let n := if 0 ≤ q then roundHalfEven num (den * Nat.pow 2 q.toNat)
    else roundHalfEven (num * Nat.pow 2 (-q).toNat) den
  if num = 0 then 0 else min ((q + 1074).toNat * hiddenBit + n) infinityBits

/-- How many decimal digits a number has. -/
def digitCount (n : Nat) : Nat := (Nat.toDigits 10 n).length

/-- The pattern of the double next to `coefficient · 10 ^ exponent`. Numbers that are certain to
round to zero or to infinity are answered without computing the power. -/
def decimalBits (coefficient : Nat) (exponent : Int) : Nat :=
  let size := exponent + digitCount coefficient
  if coefficient = 0 then 0
  else if 310 < size then infinityBits
  else if size < -330 then 0
  else if 0 ≤ exponent then nearestBits (coefficient * Nat.pow 10 exponent.toNat) 1
  else nearestBits coefficient (Nat.pow 10 (-exponent).toNat)

/-- The double next to a whole number. -/
def ofInt (i : Int) : Float := ofBits (i < 0) (nearestBits i.natAbs 1)

end LogFilter.Decimal
