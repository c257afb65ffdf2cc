import LogFilter.Text.Split

/-!
# Levels

The severities of log events, from the least to the most severe.
-/

namespace LogFilter

/-- The severity of a log event. -/
inductive Level
  | trace | debug | info | warn | error | fatal | off
  deriving DecidableEq, Repr, Inhabited

namespace Level

/-- All levels, in order. -/
def all : List Level := [trace, debug, info, warn, error, fatal, off]

/-- The place of a level in the order. -/
def ordinal : Level → Nat
  | trace => 0
  | debug => 1
  | info => 2
  | warn => 3
  | error => 4
  | fatal => 5
  | off => 6

/-- The level at a place in the order. -/
def ofOrdinal? (i : Int) : Option Level := all.find? fun level => (level.ordinal : Int) = i

def name : Level → String
  | trace => "Trace"
  | debug => "Debug"
  | info => "Info"
  | warn => "Warn"
  | error => "Error"
  | fatal => "Fatal"
  | off => "Off"

/-- The level of a name in any ASCII case. -/
def ofName? (s : String) : Option Level :=
  all.find? fun level => Text.sameIgnoringAsciiCase level.name.toList s.toList

/-- What is said of a name that is no level's. -/
def unknownMessage (name : String) : String := "Unknown log level: " ++ name

theorem ofOrdinal?_ordinal (level : Level) : ofOrdinal? level.ordinal = some level := by
  cases level <;> decide

theorem ofName?_name (level : Level) : ofName? level.name = some level := by
  cases level <;> decide +kernel

end Level

end LogFilter
