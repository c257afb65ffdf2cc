import LogFilter.Condition.Lexeme
import LogFilter.Text.Split
import LogFilter.Text.Utf8

/-!
# A tokenizer with one token in view

A tokenizer holds the current token and the text that was not read yet. Reading can fail and can be
tried again: the current token stays, blanks before the fault are gone, and so are an operator's
first character and the text of a string without an end.
-/

namespace LogFilter

/-- A place in the text of a condition. -/
structure Tokenizer where
  current : Token
  /-- What comes after the current token. -/
  unread : List Char
  /-- How many bytes were read. -/
  offset : Nat

namespace Tokenizer

open Text

/-- What a step answers, and the tokenizer after it. -/
abbrev Step (α : Type) := Except ParseError α × Tokenizer

/-- Reads the next token and makes it the current one. After the end there is none. -/
def next (t : Tokenizer) : Step Unit :=
  if t.current.kind = .endOfInput then (.error .pastEndOfInput, t)
  else
    let start := t.offset + utf8Length (t.unread.takeWhile isBlank)
    let s := trimStart t.unread
    match Lexeme.of s with
    | .token kind text rest =>
      (.ok (), ⟨⟨kind, String.ofList text, start⟩, rest, start + utf8Length text⟩)
    | .finish => (.ok (), ⟨⟨.endOfInput, "", start⟩, s, start⟩)
    | .failure fault read rest =>
      (.error (.lexical fault start), ⟨t.current, rest, start + utf8Length read⟩)

/-- The tokenizer before the first token of a text. -/
def start (text : String) : Tokenizer := ⟨⟨.beginningOfInput, "", 0⟩, text.toList, 0⟩

/-- The tokenizer at the first token of a text. -/
def ofText (text : String) : Except ParseError Tokenizer :=
  match (start text).next with
  | (.ok _, t) => .ok t
  | (.error e, _) => .error e

/-- Goes past the current token, which must be of a kind. -/
def expect (kind : TokenKind) (t : Tokenizer) : Step Unit :=
  if t.current.kind = kind then t.next
  else
    (.error (.expectedToken kind t.current.kind t.current.text t.current.position), t)

/-- Goes past the current token, which must be a keyword, and answers its text. The text is taken
out of the current token before the next one is read. -/
def eatKeyword (t : Tokenizer) : Step String :=
  if t.current.kind = .keyword then
    match ({ t with current := { t.current with text := "" } } : Tokenizer).next with
    | (.ok _, t') => (.ok t.current.text, t')
    | (.error e, t') => (.error e, t')
  else (.error (.identifierExpected t.current.position), t)

/-- Whether the current token is a keyword, in any ASCII case. -/
def isKeyword (word : String) (t : Tokenizer) : Bool :=
  t.current.kind = .keyword && sameIgnoringAsciiCase t.current.text.toList word.toList

end Tokenizer

/-- The text of a string token without the quotes around it and with those in it written once. -/
def Token.stringValue (t : Token) : String :=
  match t.text.toList with
  | '\'' :: r =>
    if r.getLast? = some '\'' then String.ofList (Text.halveQuotes r.dropLast)
    else String.ofList (Text.halveQuotes ('\'' :: r))
  | s => String.ofList (Text.halveQuotes s)

end LogFilter
