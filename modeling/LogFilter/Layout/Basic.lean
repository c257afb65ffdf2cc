import LogFilter.Event.Basic

/-!
# Layouts

A layout is a text made anew for each event. Conditions use it without knowing how it is made: they
render it, ask whether it is the same for all events, and compare it by its template.
-/

namespace LogFilter

/-- A text that may depend on an event. -/
structure Layout where
  /-- The template from which the layout was compiled. -/
  template : String
  /-- The text for every event, if the template leaves nothing to the event. -/
  fixedText? : Option String
  /-- The text for one event. -/
  render : Event → String

/-- Why a template gave no layout. -/
inductive LayoutError
  | unterminated (template : String)
  | unknownRenderer (name : String)
  | missingOption (renderer option : String)
  deriving DecidableEq, Repr

def LayoutError.message : LayoutError → String
  | unterminated template => "Layout renderer is missing a closing '\x7d' in '" ++ template ++ "'"
  | unknownRenderer name => "Unknown layout renderer: '" ++ name ++ "'"
  | missingOption renderer option =>
    "Layout renderer '" ++ renderer ++ "' requires option '" ++ option ++ "'"

/-- Makes layouts of templates. -/
abbrev LayoutCompiler := String → Except LayoutError Layout

end LogFilter
