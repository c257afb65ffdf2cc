import LogFilter.Calendar.Printer
import LogFilter.Decimal.Printer
import LogFilter.Event.Basic

/-!
# Values

What conditions compute with: eight kinds of values, their texts and their equality.
-/

namespace LogFilter

/-- A value of a condition. -/
inductive Value
  | null
  | bool (b : Bool)
  | int (i : Int64)
  | float (x : Float)
  | string (s : String)
  | date (d : DateTime)
  | level (l : Level)
  | exception (e : ExceptionInfo)

/-- The kinds of values. -/
inductive Kind
  | null | bool | int | float | string | date | level | exception
  deriving DecidableEq, Repr

/-- The name of a kind in messages. -/
def Kind.name : Kind → String
  | null => "Null"
  | bool => "Boolean"
  | int => "Int64"
  | float => "Double"
  | string => "String"
  | date => "DateTime"
  | level => "LogLevel"
  | exception => "Exception"

namespace Value

def kind : Value → Kind
  | null => .null
  | bool _ => .bool
  | int _ => .int
  | float _ => .float
  | string _ => .string
  | date _ => .date
  | level _ => .level
  | exception _ => .exception

def isNull : Value → Bool
  | null => true
  | _ => false

/-- The truth value of a boolean. -/
def asBool? : Value → Option Bool
  | bool b => some b
  | _ => none

/-- The text of a double: never with an exponent, and always with a point. -/
def floatText (x : Float) : String := String.ofList (Decimal.doubleText Decimal.valueStyle x)

/-- The text of a value, which for null is empty. -/
def text : Value → String
  | null => ""
  | bool true => "True"
  | bool false => "False"
  | int i => toString i.toInt
  | float x => floatText x
  | string s => s
  | date d => String.ofList d.text
  | level l => l.name
  | exception e => e.text

/-- Whether two values are of one kind and the same. Doubles are compared as numbers, so both zeros
are the same and what is no number is not even the same as itself. -/
def same : Value → Value → Bool
  | null, null => true
  | bool a, bool b => a == b
  | int a, int b => a == b
  | float a, float b => Decimal.sameNumber a b
  | string a, string b => a == b
  | date a, date b => a == b
  | level a, level b => a == b
  | exception a, exception b => a == b
  | _, _ => false

/-- A whole number as a value: a double where 64 bits with a sign do not hold it. -/
def ofNat (n : Nat) : Value :=
  if n < 0x8000000000000000 then int (Int64.ofNat n) else float (Decimal.ofInt n)

end Value

end LogFilter
