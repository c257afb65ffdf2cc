import LogFilter.Calendar.Reader
import LogFilter.Decimal.Reader
import LogFilter.Value.Basic

/-!
# Conversions between kinds of values

Every value can become a string. Strings can become values of the other kinds but null and
exception, if they are written so, with blanks around them. Between numbers, truth values and levels
there are conversions that keep the number: true is one, a level is its place in the order.
-/

namespace LogFilter.Value

/-- A word for a truth value in any ASCII case. -/
def boolOfText? (s : List Char) : Option Bool :=
  if Text.sameIgnoringAsciiCase s "true".toList then some true
  else if Text.sameIgnoringAsciiCase s "false".toList then some false
  else none

/-- The whole number that a double is, if 64 bits with a sign hold it. -/
def intOfFloat? (x : Float) : Option Int64 :=
  match Decimal.whole? x with
  | some i => if -0x8000000000000000 ≤ i ∧ i < 0x8000000000000000 then some (Int64.ofInt i) else none
  | none => none

def boolNumber (b : Bool) : Int := if b then 1 else 0

/-- The value that stands in another kind for a value of a different kind. -/
def convertOther? (v : Value) (target : Kind) : Option Value :=
  match v, target with
  | null, _ => none
  | v, .string => some (string v.text)
  | string s, .date => (DateTime.read? s.toList).map date
  | string s, .float => (Decimal.readDouble? (Text.trim s.toList)).map float
  | string s, .int => (Decimal.readInt64? (Text.trim s.toList)).map int
  | string s, .bool => (boolOfText? (Text.trim s.toList)).map bool
  | string s, .level => (Level.ofName? (String.ofList (Text.trim s.toList))).map level
  | int i, .float => some (float (Decimal.ofInt i.toInt))
  | int i, .bool => some (bool (i != 0))
  | int i, .level => (Level.ofOrdinal? i.toInt).map level
  | float x, .int => (intOfFloat? x).map int
  | float x, .bool => some (bool (Decimal.isNaN x || Decimal.orderKey x != 0))
  | bool b, .float => some (float (Decimal.ofInt (boolNumber b)))
  | bool b, .int => some (int (Int64.ofInt (boolNumber b)))
  | level l, .float => some (float (Decimal.ofInt l.ordinal))
  | level l, .int => some (int (Int64.ofNat l.ordinal))
  | _, _ => none

/-- The value that stands in a kind for a value. -/
def convert? (v : Value) (target : Kind) : Option Value :=
  if v.kind = target then some v else v.convertOther? target

end LogFilter.Value
