import LogFilter.Decimal.Reader
import LogFilter.Json.Basic
import LogFilter.Json.Cursor

/-!
# Numbers in JSON

A numeral is split by the grammar of JSON first and given a value afterwards, because a numeral in a
field that nobody reads need only be well formed.

## Values

A whole number that fits is exact. Any other numeral is a double found by one multiplication or
division: the digits that fit 64 bits are taken as a whole number, the point and the exponent as a
power of ten, and that power is applied in double arithmetic. Digits that do not fit are dropped, so
the result can be one step away from the nearest double. A result beyond the largest double is
refused; one below the smallest is zero.
-/

namespace LogFilter.Json

open Decimal Text

/-- The parts of a numeral without its minus sign. -/
structure Numeral where
  whole : List Char
  /-- The digits after the point, if there is a point. -/
  fraction : Option (List Char)
  /-- Whether the exponent is negative, and its digits, if there is an exponent. -/
  exponent : Option (Bool × List Char)

/-! ## Grammar -/

/-- One or more digits. -/
def takeDigits (s : List Char) : Except Fault (List Char × List Char) :=
  match s.takeWhile Char.isDigit with
  | [] => .error .malformed
  | ds => .ok (ds, s.dropWhile Char.isDigit)

/-- Digits without a zero in front of others. -/
def takeWhole (s : List Char) : Except Fault (List Char × List Char) := do
  let (ds, rest) ← takeDigits s
  if 1 < ds.length && ds.head? == some '0' then .error .malformed else .ok (ds, rest)

def takeFraction : List Char → Except Fault (Option (List Char) × List Char)
  | '.' :: r => do
    let (ds, rest) ← takeDigits r
    .ok (some ds, rest)
  | s => .ok (none, s)

def takeExponent : List Char → Except Fault (Option (Bool × List Char) × List Char)
  | c :: r =>
    if c = 'e' || c = 'E' then do
      let (negative, digits) := readSign r
      let (ds, rest) ← takeDigits digits
      .ok (some (negative, ds), rest)
    else .ok (none, c :: r)
  | [] => .ok (none, [])

/-- The numeral at the start of a text. -/
def takeNumeral (s : List Char) : Except Fault (Numeral × List Char) := do
  let (whole, s) ← takeWhole s
  let (fraction, s) ← takeFraction s
  let (exponent, s) ← takeExponent s
  .ok (⟨whole, fraction, exponent⟩, s)

/-! ## What is left is shorter -/

theorem takeDigits_shorter {s ds r : List Char} (h : takeDigits s = .ok (ds, r)) :
    r.length < s.length := by
  unfold takeDigits at h
  split at h
  · simp at h
  · next hne =>
    simp only [Except.ok.injEq, Prod.mk.injEq] at h
    obtain ⟨rfl, rfl⟩ := h
    have := List.takeWhile_append_dropWhile (p := Char.isDigit) (l := s)
    have hl := congrArg List.length this
    rw [List.length_append] at hl
    have : 0 < (s.takeWhile Char.isDigit).length := List.length_pos_iff.2 hne
    omega

theorem takeWhole_shorter {s ds r : List Char} (h : takeWhole s = .ok (ds, r)) :
    r.length < s.length := by
  simp only [takeWhole, bind, Except.bind] at h
  split at h
  next => simp at h
  next p hp =>
    split at h
    next => simp at h
    next =>
      simp only [Except.ok.injEq, Prod.mk.injEq] at h
      obtain ⟨rfl, rfl⟩ := h
      exact takeDigits_shorter hp

theorem takeFraction_le {s r : List Char} {f : Option (List Char)}
    (h : takeFraction s = .ok (f, r)) : r.length ≤ s.length := by
  unfold takeFraction at h
  simp only [bind, Except.bind] at h
  split at h
  next t =>
    split at h
    next => simp at h
    next p hp =>
      simp only [Except.ok.injEq, Prod.mk.injEq] at h
      obtain ⟨rfl, rfl⟩ := h
      have := takeDigits_shorter hp
      simp only [List.length_cons]
      omega
  next => simp_all

theorem readSign_le (s : List Char) : (readSign s).2.length ≤ s.length := by
  unfold readSign
  split <;> simp

theorem takeExponent_le {s r : List Char} {e : Option (Bool × List Char)}
    (h : takeExponent s = .ok (e, r)) : r.length ≤ s.length := by
  unfold takeExponent at h
  simp only [bind, Except.bind] at h
  split at h
  next c t =>
    split at h
    next =>
      split at h
      next => simp at h
      next p hp =>
        simp only [Except.ok.injEq, Prod.mk.injEq] at h
        obtain ⟨rfl, rfl⟩ := h
        have h1 := takeDigits_shorter hp
        have h2 := readSign_le t
        simp only [List.length_cons]
        omega
    next => simp_all
  next => simp_all

theorem takeNumeral_shorter {s r : List Char} {n : Numeral} (h : takeNumeral s = .ok (n, r)) :
    r.length < s.length := by
  simp only [takeNumeral, bind, Except.bind] at h
  split at h
  next => simp at h
  next p hp =>
    split at h
    next => simp at h
    next q hq =>
      split at h
      next => simp at h
      next t ht =>
        simp only [Except.ok.injEq, Prod.mk.injEq] at h
        obtain ⟨rfl, rfl⟩ := h
        have h1 := takeWhole_shorter hp
        have h2 := takeFraction_le hq
        have h3 := takeExponent_le ht
        omega
/-! ## Values -/

/-- The digits that fit 64 bits, read onto `n`, and those from the first that does not fit. -/
def takeFitting (n : Nat) : List Char → Nat × List Char
  | [] => (n, [])
  | c :: r =>
    let n' := 10 * n + digitValue c
    if n' < 0x10000000000000000 then takeFitting n' r else (n, c :: r)

/-- A double divided by `10 ^ k`, in steps that a double can hold. -/
def divideByPower (x : Float) (k : Nat) : Float :=
  if k ≤ 308 then x / ofBits false (decimalBits 1 k)
  else if magnitudeBits x = 0 then x
  else divideByPower (x / ofBits false (decimalBits 1 308)) (k - 308)
termination_by k

/-- A whole number times a power of ten in double arithmetic; a result that is infinite is refused. -/
def scaled (significand : Nat) (exponent : Int) : Except Fault Float :=
  let x := ofInt significand
  if exponent < 0 then .ok (divideByPower x (-exponent).toNat)
  else if 308 < exponent then
    if significand = 0 then .ok x else .error .malformed
  else
    let y := x * ofBits false (decimalBits 1 exponent)
    if isInfinite y then .error .malformed else .ok y

/-- The largest exponent of a numeral that is not treated as endless. -/
def exponentLimit : Nat := 0x7FFFFFFF

/-- The double of a numeral. -/
def Numeral.double (n : Numeral) : Except Fault Float :=
  let (wholePart, dropped) := takeFitting 0 n.whole
  let fraction := n.fraction.getD []
  let (significand, unread) := takeFitting wholePart fraction
  let exponent : Int := dropped.length - (fraction.length - unread.length : Nat)
  match n.exponent with
  | none => scaled significand exponent
  | some (negative, ds) =>
    let e := digitsValue ds
    if exponentLimit < e then
      if significand ≠ 0 && !negative then .error .malformed else .ok (ofBits false 0)
    else scaled significand (if negative then exponent - e else exponent + e)

/-- Whether a numeral is written as a whole number. -/
def Numeral.isWhole (n : Numeral) : Bool := n.fraction.isNone && n.exponent.isNone

/-- The value of a numeral with its sign. -/
def Numeral.value (negative : Bool) (n : Numeral) : Except Fault Number :=
  let i := digitsValue n.whole
  if n.isWhole && !negative && i < 0x10000000000000000 then .ok (.int i)
  else if n.isWhole && negative && 0 < i && i ≤ 0x8000000000000000 then .ok (.int (-(i : Int)))
  else n.double.map fun x => .double (ofBits negative (magnitudeBits x))

/-- A number at the start of a text from which a minus sign has been taken, if there was one. -/
def readNumber (negative : Bool) (s : List Char) : Reading Number s :=
  match h : takeNumeral s with
  | .error e => .error e
  | .ok (numeral, rest) => (numeral.value negative).map fun n => ⟨n, rest, takeNumeral_shorter h⟩

/-- Passes over a number in the same place, whatever its size. -/
def skipNumber (s : List Char) : Reading Unit s :=
  match h : takeNumeral s with
  | .error e => .error e
  | .ok (_, rest) => .ok ⟨(), rest, takeNumeral_shorter h⟩

end LogFilter.Json
