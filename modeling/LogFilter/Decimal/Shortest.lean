import LogFilter.Decimal.Double

/-!
# Shortest decimals

For a double the decimals with the fewest digits that are read back as it, and of those the one
next to its value.

## How it is found

On the grid of decimals with `k` digits the two neighbours of the value are tried, for one digit,
two digits, and so on. If any decimal of a grid is read back as the double then so is one of the
two neighbours, because the decimals that are read back as it form an interval around the value. So
the first grid with a hit has the fewest digits. Seventeen digits are enough for every double; past
them the value itself, written out, would be the answer.
-/

namespace LogFilter.Decimal

/-- What to do with a value halfway between two candidates. -/
inductive Tie
  | up
  | even
  deriving DecidableEq, Repr

/-- A whole number times a power of ten. -/
structure Digits where
  coefficient : Nat
  exponent : Int
  deriving DecidableEq, Repr

/-- The pattern of the double as which a decimal is read. -/
def Digits.bits (d : Digits) : Nat := decimalBits d.coefficient d.exponent

/-- The decimal without zeros at the end of its coefficient. -/
def Digits.strip (d : Digits) : Digits :=
  if h : d.coefficient ≠ 0 ∧ d.coefficient % 10 = 0 then
    Digits.strip ⟨d.coefficient / 10, d.exponent + 1⟩
  else d
termination_by d.coefficient
decreasing_by exact Nat.div_lt_self (by omega) (by decide)

/-- The exponent `p` with `10 ^ (p - 1) ≤ num / den < 10 ^ p`, for a positive ratio. -/
def decimalSize (num den : Nat) : Int :=
  if den ≤ num then digitCount (num / den)
  else
    let z := digitCount (den / num)
    -- `den / num` has `z` digits, so the ratio lies above `10 ^ (-z)`
    if Nat.pow 10 (z - 1) * num = den then 2 - (z : Int) else 1 - (z : Int)

/-- The neighbours of a ratio on the grid of multiples of `10 ^ exponent`, as the quotient below
it, what is left, and the divisor. -/
def gridQuotient (num den : Nat) (exponent : Int) : Nat × Nat × Nat :=
  let num' := if 0 ≤ exponent then num else num * Nat.pow 10 (-exponent).toNat
  let den' := if 0 ≤ exponent then den * Nat.pow 10 exponent.toNat else den
  (num' / den', num' % den', den')

/-- The decimal on one grid that is read back as the pattern and is next to the ratio. -/
def hitOnGrid (tie : Tie) (bits num den : Nat) (exponent : Int) : Option Digits :=
  let (n, r, d) := gridQuotient num den exponent
  let low : Digits := ⟨n, exponent⟩
  let high : Digits := ⟨n + 1, exponent⟩
  let upper :=
    d < 2 * r || (2 * r == d && (match tie with | .up => true | .even => n % 2 == 1))
  match low.bits == bits, high.bits == bits with
  | true, true => some (if upper then high else low)
  | true, false => some low
  | false, true => some high
  | false, false => none

/-- The first hit on the grids of `k` digits and more. -/
def firstHit (tie : Tie) (bits num den : Nat) (size : Int) : List Nat → Option Digits
  | [] => none
  | k :: ks =>
    match hitOnGrid tie bits num den (size - k) with
    | some d => some d
    | none => firstHit tie bits num den size ks

/-- The value of a pattern as a decimal with all its digits. -/
def exactDigits (d : Dyadic) : Digits :=
  if 0 ≤ d.exponent then ⟨d.coefficient * Nat.pow 2 d.exponent.toNat, 0⟩
  else ⟨d.coefficient * Nat.pow 5 (-d.exponent).toNat, d.exponent⟩

/-- The shortest decimal of the finite double of a pattern. -/
def shortest (tie : Tie) (bits : Nat) : Digits :=
  let d := dyadicOfBits bits
  if bits = 0 then ⟨0, 0⟩
  else
    let (num, den) := d.ratio
    match firstHit tie bits num den (decimalSize num den) (List.range' 1 17) with
    | some digits => digits.strip
    | none => (exactDigits d).strip

end LogFilter.Decimal
