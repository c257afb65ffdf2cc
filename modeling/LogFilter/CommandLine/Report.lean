import LogFilter.Event.Lines
import LogFilter.Filter.Config
import LogFilter.Warning

/-!
# Reports of failed runs

A report says what failed and then why, from the nearest cause to the farthest. A single cause stands
alone; several are numbered from zero on. Further lines of a cause are set in under its first.
-/

namespace LogFilter.CommandLine

/-- What failed, and its causes from the nearest to the farthest. -/
structure Report where
  headline : String
  causes : List String
  deriving DecidableEq, Repr

namespace Report

/-- A text with spaces before all its lines but the first. -/
def setIn (width : Nat) : List Char → List Char
  | [] => []
  | '\n' :: r => '\n' :: (List.replicate width ' ' ++ setIn width r)
  | c :: r => c :: setIn width r

/-- A number in a place for five characters. -/
def numberText (n : Nat) : String := String.ofList ((Nat.toDigits 10 n).leftpad 5 ' ')

/-- The only cause. -/
def singleCause (cause : String) : String := "    " ++ String.ofList (setIn 4 cause.toList)

/-- One of several causes. -/
def numberedCause (n : Nat) (cause : String) : String :=
  numberText n ++ ": " ++ String.ofList (setIn 7 cause.toList)

/-- The lines of the causes from the number `n` on. -/
def numberedCauses (n : Nat) : List String → List String
  | [] => []
  | cause :: causes => numberedCause n cause :: numberedCauses (n + 1) causes

def causeLines : List String → List String
  | [cause] => [singleCause cause]
  | causes => numberedCauses 0 causes

/-- A report as it is printed. -/
def text (report : Report) : String :=
  let reasons :=
    if report.causes.isEmpty then ""
    else "\n\nCaused by:\n" ++ String.intercalate "\n" (causeLines report.causes)
  "Error: " ++ report.headline ++ reasons ++ "\n"

end Report

/-- Why a run failed. -/
inductive RunError
  | invalidCondition (text : String) (cause : ParseError)
  /-- The condition with this canonical text has no value. -/
  | noValue (condition : String) (cause : EvalError)
  | config (path : String) (cause : ConfigError)
  | rules (cause : ConditionError)
  | events (path : String) (cause : Event.LinesError)
  deriving DecidableEq, Repr

namespace RunError

/-- What is wrong with text that is read as JSON. -/
def faultText : Json.Fault → String
  | .malformed => "the line is no JSON"
  | .mismatch => "the JSON describes no event"

/-- What is wrong with text that is read as rules. -/
def malformedConfigText : String := "the text does not describe filter rules"

def parseCauses (e : ParseError) : List String := e.message :: e.causeMessage?.toList

def evalCauses (e : EvalError) : List String :=
  e.message :: (match e with
    | .call _ cause => [cause.message]
    | _ => [])

def configCauses (path : String) : ConfigError → List String
  | .unreadable cause =>
    ["Failed to read config file '" ++ path ++ "': " ++ cause.message, cause.message]
  | .malformed =>
    ["Failed to parse config file '" ++ path ++ "': " ++ malformedConfigText, malformedConfigText]

/-- What the reading of a file of events has failed at. -/
def eventsHeadline (path : String) : String := "Failed to read events from '" ++ path ++ "'"

def eventsCauses (path : String) : Event.LinesError → List String
  | .unreadable cause => [eventsHeadline path ++ ": " ++ cause.message, cause.message]
  | .invalidLine number fault =>
    ["Invalid event on line " ++ toString number ++ ": " ++ faultText fault, faultText fault]

def report : RunError → Report
  | invalidCondition text cause => ⟨"Invalid condition '" ++ text ++ "'", parseCauses cause⟩
  | noValue condition cause => ⟨"Failed to evaluate '" ++ condition ++ "'", evalCauses cause⟩
  | config path cause => ⟨"Failed to load config", configCauses path cause⟩
  | rules cause => ⟨"Failed to build filter chain", cause.message :: parseCauses cause.cause⟩
  | events path cause => ⟨eventsHeadline path, eventsCauses path cause⟩

/-- The warning that goes with an error. -/
def warning? : RunError → Option Warning
  | invalidCondition _ cause => cause.warning?
  | rules cause => cause.cause.warning?
  | _ => none

end RunError

end LogFilter.CommandLine
