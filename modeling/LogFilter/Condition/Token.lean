/-!
# Tokens

The words of the condition language. A token keeps its own text and where it starts, counted in
bytes of UTF-8.
-/

namespace LogFilter

/-- The kinds of tokens. -/
inductive TokenKind
  /-- What is current before anything was read. -/
  | beginningOfInput
  | endOfInput
  /-- The kind of nothing that is ever read. -/
  | invalid
  | number
  | string
  | keyword
  | leftParen
  | rightParen
  | dot
  | comma
  | minus
  | not
  | and
  | or
  | equalTo
  | notEqual
  | less
  | greater
  | lessOrEqual
  | greaterOrEqual
  deriving DecidableEq, Repr, Inhabited

/-- The name of a kind in messages. -/
def TokenKind.name : TokenKind → String
  | beginningOfInput => "BeginningOfInput"
  | endOfInput => "EndOfInput"
  | invalid => "Invalid"
  | number => "Number"
  | string => "String"
  | keyword => "Keyword"
  | leftParen => "LeftParen"
  | rightParen => "RightParen"
  | dot => "Dot"
  | comma => "Comma"
  | minus => "Minus"
  | not => "Not"
  | and => "And"
  | or => "Or"
  | equalTo => "EqualTo"
  | notEqual => "NotEqual"
  | less => "Less"
  | greater => "Greater"
  | lessOrEqual => "LessOrEqual"
  | greaterOrEqual => "GreaterOrEqual"

/-- A word of the condition language. -/
structure Token where
  kind : TokenKind
  /-- The text as it was written; a string keeps its quotes. -/
  text : String
  /-- The bytes before the token. -/
  position : Nat
  deriving DecidableEq, Repr

end LogFilter
