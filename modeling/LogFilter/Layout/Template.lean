import LogFilter.Layout.Basic
import LogFilter.Text.Blank

/-!
# Templates

A template is text with placeholders between a dollar sign with an opening brace and the next
closing brace. A placeholder is a renderer's name in any ASCII case, and for some renderers a colon
and one option, either with its name and an equals sign or alone.

## Termination

Each placeholder is followed by a shorter text.
-/

namespace LogFilter

namespace Template

open Text

/-- A piece of a template. -/
inductive Part
  | literal (text : String)
  | level
  | logger
  | message
  | exception
  | property (name : String)
  | scopeProperty (name : String)
  deriving DecidableEq, Repr

/-- What a part stands for in an event. What an event does not have is empty. -/
def Part.render (event : Event) : Part → String
  | literal text => text
  | level => event.level.name
  | logger => event.logger
  | message => event.message
  | exception => (event.exception.map ExceptionInfo.text).getD ""
  | property name => (event.propertyText? name).getD ""
  | scopeProperty name => (event.scopePropertyText? name).getD ""

/-- The text of a part that is the same for all events. -/
def Part.fixedText? : Part → Option String
  | literal text => some text
  | _ => none

/-- The value of the option `key`, which a renderer must have. -/
def requiredOption (renderer : String) (options : Option (List Char)) (key : String) :
    Except LayoutError String :=
  let missing := Except.error (LayoutError.missingOption renderer key)
  match options with
  | none => missing
  | some s =>
    if s.isEmpty then missing
    else
      match breakOn ['='] s with
      | none => .ok (String.ofList s)
      | some (name, value) =>
        if sameIgnoringAsciiCase (trim name) key.toList then .ok (String.ofList (trim value))
        else missing

/-- The part that the text between the braces of a placeholder stands for. -/
def placeholder (body : List Char) : Except LayoutError Part :=
  let (nameText, options) : List Char × Option (List Char) :=
    match breakOn [':'] body with
    | some (name, options) => (trim name, some (trim options))
    | none => (trim body, none)
  let name := String.ofList nameText
  match String.ofList (nameText.map Char.toLower) with
  | "level" => .ok .level
  | "logger" => .ok .logger
  | "message" => .ok .message
  | "exception" => .ok .exception
  | "event-properties" | "event-property" =>
    (requiredOption name options "item").map Part.property
  | "scopeproperty" | "mdlc" => (requiredOption name options "item").map Part.scopeProperty
  | "literal" => (requiredOption name options "text").map Part.literal
  | _ => .error (.unknownRenderer name)

/-- What opens a placeholder. -/
def opening : List Char := ['$', '\x7b']

/-- What closes a placeholder. -/
def closing : List Char := ['\x7d']

/-- A part for text without placeholders, unless there is none. -/
def literalParts (text : List Char) : List Part :=
  if text.isEmpty then [] else [.literal (String.ofList text)]

/-- The parts of a placeholder and the text after it. A literal takes the text up. -/
def Part.followedBy (text : List Char) : Part → List Part
  | literal before => [.literal (before ++ String.ofList text)]
  | part => part :: literalParts text

/-- The text up to the first placeholder and the parts from there on, or the error of the first
placeholder that has one. -/
def partsOf (template : String) (s : List Char) : Except LayoutError (List Char × List Part) :=
  match _h : breakOn opening s with
  | none => .ok (s, [])
  | some (before, after) =>
    match _h' : breakOn closing after with
    | none => .error (.unterminated template)
    | some (body, rest) => do
      let part ← placeholder body
      let (text, parts) ← partsOf template rest
      .ok (before, part.followedBy text ++ parts)
termination_by s.length
decreasing_by
  have h1 := congrArg List.length (eq_of_breakOn _h)
  have h2 := congrArg List.length (eq_of_breakOn _h')
  simp only [List.length_append, opening, closing, List.length_cons, List.length_nil] at h1 h2
  omega

/-- The parts of a template. -/
def parse (template : String) : Except LayoutError (List Part) := do
  let (text, parts) ← partsOf template template.toList
  .ok (literalParts text ++ parts)

/-- The text of parts for an event, one part after the other. -/
def renderParts (event : Event) (parts : List Part) : String :=
  String.join (parts.map (Part.render event))

/-- The text of parts of which each is the same for all events. -/
def fixedText? (parts : List Part) : Option String :=
  (parts.mapM Part.fixedText?).map String.join

/-- The layout of a template. If nothing depends on the event its text is made only once. -/
def compile : LayoutCompiler := fun template => do
  let parts ← parse template
  let fixed := fixedText? parts
  .ok
    { template := template
      fixedText? := fixed
      render := fun event => fixed.getD (renderParts event parts) }

end Template

end LogFilter
