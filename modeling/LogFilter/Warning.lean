import LogFilter.Condition.Error
import LogFilter.Condition.Eval

/-!
# Warnings

A run warns of two failures: of a call in a condition that is bound to no method, which also ends
the run, and of a filter whose condition has no value for an event, which is passed over. Warnings
are records of the part of the program that gives them, with a message and fields.
-/

namespace LogFilter

/-- A failure of which a run warns. -/
inductive Warning
  /-- A call by this name is bound to no method. -/
  | unresolved (name : String) (cause : ResolveError)
  /-- The condition of a filter, in its canonical text, has no value for an event. -/
  | noValue (condition : String) (cause : EvalError)
  deriving DecidableEq, Repr

namespace Warning

/-- The part of the program that gives a warning. -/
def source : Warning → String
  | unresolved .. => "log_conditions::condition::parser"
  | noValue .. => "log_conditions::filter::matcher"

def message : Warning → String
  | unresolved name cause => "Cannot resolve function '" ++ name ++ "': " ++ cause.message
  | noValue .. => "Exception during filter evaluation"

/-- The fields of a warning and their values. -/
def fields : Warning → List (String × String)
  | unresolved .. => []
  | noValue condition cause => [("condition", condition), ("error", cause.message)]

/-- A warning on one line, without the time and the colours that are printed with it. -/
def text (warning : Warning) : String :=
  " WARN " ++ warning.source ++ ": " ++ warning.message
    ++ String.join (warning.fields.map fun field => " " ++ field.1 ++ "=" ++ field.2) ++ "\n"

end Warning

/-- The warning that goes with an error. There is none where the program ends without an answer. -/
def ParseError.warning? : ParseError → Option Warning
  | unresolved _ .panic => none
  | unresolved name cause => some (.unresolved name cause)
  | _ => none

/-- The warning of a condition that has no value for an event. -/
def Expr.warning? (condition : Expr) (event : Event) : Option Warning :=
  match condition.evaluate event with
  | .error cause => some (.noValue condition.text cause)
  | .ok _ => none

end LogFilter
