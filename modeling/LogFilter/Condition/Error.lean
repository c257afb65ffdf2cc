import LogFilter.Condition.Token
import LogFilter.Layout.Basic
import LogFilter.Level
import LogFilter.Method.Registry
import LogFilter.Text.Visible

/-!
# Errors in conditions

What can be wrong with the text of a condition. Where the place is known it is given in bytes from
the start.
-/

namespace LogFilter

/-- Text that starts no token. -/
inductive LexicalFault
  | unterminatedString
  /-- A character that must be doubled and is not. -/
  | incompleteOperator (found : Char)
  /-- An ASCII character that is no punctuation of the language. -/
  | invalidPunctuation (found : Char)
  | invalidToken (found : Char)
  deriving DecidableEq, Repr

def LexicalFault.message : LexicalFault → String
  | unterminatedString => "String literal is missing a closing quote character."
  | incompleteOperator found =>
    "Expected '" ++ String.ofList [found, found] ++ "' but got '" ++ String.ofList [found] ++ "'"
  | invalidPunctuation found => "Invalid punctuation: " ++ String.ofList [found]
  | invalidToken found => "Invalid token: " ++ Text.visible found

/-- Why a text is no condition. -/
inductive ParseError
  | lexical (fault : LexicalFault) (position : Nat)
  | pastEndOfInput
  | expectedToken (expected actual : TokenKind) (text : String) (position : Nat)
  | unexpectedToken (text : String) (position : Nat)
  | identifierExpected (position : Nat)
  | numberExpected (actual : TokenKind)
  | invalidNumber (text : String)
  | unknownLevel (name : String)
  | layout (template : String) (cause : LayoutError)
  /-- A call is bound to no method. With the cause `panic` there is no answer either. -/
  | unresolved (name : String) (cause : ResolveError)
  deriving DecidableEq, Repr

namespace ParseError

def message : ParseError → String
  | lexical fault _ => fault.message
  | pastEndOfInput => "Cannot read past end of stream."
  | expectedToken expected actual text _ =>
    "Expected token of type: " ++ expected.name ++ ", got " ++ actual.name ++ " (" ++ text ++ ")."
  | unexpectedToken text _ => "Unexpected token: " ++ text
  | identifierExpected _ => "Identifier expected"
  | numberExpected actual => "Number expected, got " ++ actual.name
  | invalidNumber text => "Invalid number: " ++ text
  | unknownLevel name => Level.unknownMessage name
  | layout template _ => "Invalid layout in string literal '" ++ template ++ "'"
  | unresolved name _ => "Cannot resolve function '" ++ name ++ "'"

/-- The place of an error, in bytes from the start of the text. -/
def position? : ParseError → Option Nat
  | lexical _ position => some position
  | expectedToken _ _ _ position => some position
  | unexpectedToken _ position => some position
  | identifierExpected position => some position
  | _ => none

/-- The message of the error behind an error. -/
def causeMessage? : ParseError → Option String
  | layout _ cause => some cause.message
  | unresolved _ cause => some cause.message
  | _ => none

end ParseError

end LogFilter
