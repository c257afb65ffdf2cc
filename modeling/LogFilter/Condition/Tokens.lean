import LogFilter.Condition.Lexeme
import LogFilter.Text.Utf8

/-!
# Sequences of tokens

The tokens of a text, up to its end or to the first place where there is no token. The sequence is
made without regard to its reader: a fault comes after the tokens before it, so a reader that stops
earlier never meets it.

## Termination

Each token is followed by a shorter text.
-/

namespace LogFilter

/-- Tokens and how they end. -/
inductive Tokens
  | token (token : Token) (rest : Tokens)
  /-- The end of the condition, and the bytes before it. -/
  | finish (position : Nat)
  | failure (fault : LexicalFault) (position : Nat)

namespace Tokens

open Text

/-- The tokens of a text that `offset` bytes come before. -/
def ofChars (offset : Nat) (s : List Char) : Tokens :=
  let start := offset + utf8Length (s.takeWhile isBlank)
  match _h : Lexeme.of (trimStart s) with
  | .token kind text rest =>
    .token ⟨kind, String.ofList text, start⟩ (ofChars (start + utf8Length text) rest)
  | .finish => .finish start
  | .failure fault _ _ => .failure fault start
termination_by s.length
decreasing_by
  have := Lexeme.of_shorter _h
  have := length_trimStart_le s
  omega

/-- The tokens of a text. -/
def ofText (text : String) : Tokens := ofChars 0 text.toList

/-- How many tokens there are before the end. -/
def size : Tokens → Nat
  | token _ rest => rest.size + 1
  | _ => 0

/-- The tokens before the end. -/
def toList : Tokens → List Token
  | token t rest => t :: rest.toList
  | _ => []

/-- The token at the end of the condition. -/
def endToken (position : Nat) : Token := ⟨.endOfInput, "", position⟩

/-- How the tokens end: with the token for the end, or with an error. -/
def ending : Tokens → Except ParseError Token
  | token _ rest => rest.ending
  | finish position => .ok (endToken position)
  | failure fault position => .error (.lexical fault position)

end Tokens

end LogFilter
