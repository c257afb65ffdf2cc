import LogFilter.Calendar.Printer
import LogFilter.Event.Basic

/-!
# Events as JSON

An event is an object with its fields in a fixed order. An exception that is not there and empty
properties are left out.
-/

namespace LogFilter.Event

/-- The fields of an exception, in the order in which they are written. -/
def exceptionText (e : ExceptionInfo) : List Char :=
  Json.fieldsText [("type", .string e.kind), ("message", .string e.message)]

/-- One named field of an object, with its value already as text. -/
def field (name : String) (value : List Char) : List Char := Json.quoted name ++ ':' :: value

/-- The fields of an event as text, in the order in which they are written. -/
def fieldTexts (event : Event) : List (List Char) :=
  [field "level" (Json.quoted event.level.name), field "logger" (Json.quoted event.logger),
    field "message" (Json.quoted event.message)]
  ++ (match event.exception with
    | some e => [field "exception" ('\x7b' :: (exceptionText e ++ ['\x7d']))]
    | none => [])
  ++ [field "timestamp" (Json.quoted (String.ofList event.timestamp.rfc3339Text))]
  ++ (if event.properties.isEmpty then []
    else [field "properties" (Json.object event.properties).text])
  ++ (if event.scopeProperties.isEmpty then []
    else [field "scope_properties" (Json.object event.scopeProperties).text])

/-- The compact JSON text of an event. -/
def jsonLine (event : Event) : String :=
  String.ofList ('\x7b' :: ((event.fieldTexts.intersperse [',']).flatten ++ ['\x7d']))

end LogFilter.Event
