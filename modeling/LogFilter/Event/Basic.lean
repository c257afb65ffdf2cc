import LogFilter.Calendar.DateTime
import LogFilter.Json.Printer
import LogFilter.Level
import LogFilter.Text.Split

/-!
# Log events

What a program has logged at one moment: a level, the logger's name, a message, and possibly an
exception and named properties. Some properties belong to the event, others to the scope in which it
was logged. Moments are kept and printed in the zone UTC; the zone of the system is left out.
-/

namespace LogFilter

/-- The exception that an event reports. -/
structure ExceptionInfo where
  kind : String
  message : String
  deriving DecidableEq, Repr

namespace ExceptionInfo

/-- The kind of an exception of which no kind is known. -/
def defaultKind : String := "Exception"

/-- Kind and message, with a colon and a space between them. -/
def text (e : ExceptionInfo) : String := e.kind ++ ": " ++ e.message

/-- Reads kind and message at the first colon that a space follows. What stands before it is a kind
only if it is not empty and has no space; else the whole text is the message. -/
def ofText (s : String) : ExceptionInfo :=
  match Text.breakOn [':', ' '] s.toList with
  | some (kind, message) =>
    if kind.isEmpty || kind.contains ' ' then ⟨defaultKind, s⟩
    else ⟨String.ofList kind, String.ofList message⟩
  | none => ⟨defaultKind, s⟩

end ExceptionInfo

/-- An entry of a log. -/
structure Event where
  level : Level
  logger : String
  message : String
  exception : Option ExceptionInfo
  /-- The moment, in the zone UTC. -/
  timestamp : DateTime
  properties : Json.Fields
  scopeProperties : Json.Fields

namespace Event

/-- The text of a property: a string is itself, null is nothing, all else is compact JSON. -/
def jsonText : Json → String
  | .string s => s
  | .null => ""
  | j => j.compact

/-- The text of a property of the event. -/
def propertyText? (event : Event) (name : String) : Option String :=
  (event.properties.find? name).map jsonText

/-- The text of a property of the scope. -/
def scopePropertyText? (event : Event) (name : String) : Option String :=
  (event.scopeProperties.find? name).map jsonText

/-- An event of the given moment without an exception and without properties. -/
def plain (level : Level) (logger message : String) (timestamp : DateTime) : Event where
  level := level
  logger := logger
  message := message
  exception := none
  timestamp := timestamp
  properties := []
  scopeProperties := []

end Event

end LogFilter
