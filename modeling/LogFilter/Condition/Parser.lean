import LogFilter.Condition.Expr
import LogFilter.Condition.Tokens
import LogFilter.Condition.Tokenizer
import LogFilter.Decimal.Reader
import LogFilter.Layout.Template
import LogFilter.Method.Standard

/-!
# Parsing conditions

Recursive descent over the tokens of a text. From the loosest to the tightest there are: `or`,
`and`, `not`, one comparison of two operands, and operands. An operand is an expression in
parentheses, a literal, a reference to a part of the event, or a call.

Names of calls are resolved and strings are compiled as layouts while they are parsed, so an
expression needs neither afterwards.

## Termination

Every function leaves fewer tokens than it was given, which its result proves. Between functions
that start at the same token the second component of the measure, the level of the grammar, falls.
-/

namespace LogFilter

/-- What a condition needs to know of its surroundings: its methods and its kind of layouts. -/
structure Surroundings where
  resolve : Resolver
  compile : LayoutCompiler

/-- The standard methods, and templates as layouts. -/
def Surroundings.standard : Surroundings := ⟨Registry.standard.resolve, Template.compile⟩

namespace Tokens

/-- The tokens after the first one. An error in the text after it comes up here. -/
def advance (ts : Tokens) : Except ParseError { r : Tokens // r.size < ts.size } :=
  match ts with
  | .finish _ => .error .pastEndOfInput
  | .failure fault position => .error (.lexical fault position)
  | .token _ rest =>
    match rest with
    | .failure fault position => .error (.lexical fault position)
    | .token t r => .ok ⟨.token t r, Nat.lt_succ_self _⟩
    | .finish position => .ok ⟨.finish position, Nat.lt_succ_self _⟩

/-- The first token, which past the last one is the token of the end. -/
def head : Tokens → Except ParseError Token
  | .token t _ => .ok t
  | .finish position => .ok (endToken position)
  | .failure fault position => .error (.lexical fault position)

/-- Whether the first token is of a kind. -/
def startsWith (kind : TokenKind) : Tokens → Bool
  | .token t _ => t.kind == kind
  | _ => false

/-- Whether the first token is a keyword, in any ASCII case. -/
def startsWithWord (word : String) : Tokens → Bool
  | .token t _ =>
    t.kind == .keyword && Text.sameIgnoringAsciiCase t.text.toList word.toList
  | _ => false

/-- The tokens after the first one, which must be of a kind. -/
def expect (kind : TokenKind) (ts : Tokens) :
    Except ParseError { r : Tokens // r.size < ts.size } := do
  let t ← ts.head
  if t.kind = kind then ts.advance
  else .error (.expectedToken kind t.kind t.text t.position)

/-- The text of the first token, which must be a keyword, and the tokens after it. -/
def eatKeyword (ts : Tokens) :
    Except ParseError (String × { r : Tokens // r.size < ts.size }) := do
  let t ← ts.head
  if t.kind = .keyword then
    let rest ← ts.advance
    .ok (t.text, rest)
  else .error (.identifierExpected t.position)

end Tokens

/-- The comparison that a token stands for. -/
def TokenKind.relation? : TokenKind → Option Relation
  | equalTo => some .equal
  | notEqual => some .notEqual
  | less => some .less
  | greater => some .greater
  | lessOrEqual => some .lessOrEqual
  | greaterOrEqual => some .greaterOrEqual
  | _ => none

namespace Parser

/-- Something parsed, and the tokens left, which are fewer than a bound. -/
structure Parsed (α : Type) (bound : Nat) where
  value : α
  rest : Tokens
  fewer : rest.size < bound

/-- The same with a larger bound. -/
def Parsed.widen {α : Type} {m n : Nat} (p : Parsed α m) (h : m ≤ n) : Parsed α n :=
  ⟨p.value, p.rest, Nat.lt_of_lt_of_le p.fewer h⟩

def Parsed.map {α β : Type} {n : Nat} (f : α → β) (p : Parsed α n) : Parsed β n :=
  ⟨f p.value, p.rest, p.fewer⟩

/-- The literal of a number. With a point it is a double, else a whole number of 64 bits. -/
def numberLiteral (negative : Bool) (text : String) : Except ParseError Expr :=
  let digits := text.toList
  let invalid := Except.error (ParseError.invalidNumber text)
  if digits.contains '.' then
    match Decimal.readMagnitude? digits with
    | some bits => .ok (.literal (.float (Decimal.ofBits negative bits)))
    | none => invalid
  else
    match Decimal.readInt64? (if negative then '-' :: digits else digits) with
    | some i => .ok (.literal (.int i))
    | none => invalid

/-- The expression of a string. A template that leaves nothing to the event is a literal. -/
def stringLiteral (compile : LayoutCompiler) (template : String) : Except ParseError Expr :=
  match compile template with
  | .error cause => .error (.layout template cause)
  | .ok layout =>
    match layout.fixedText? with
    | some text => .ok (.literal (.string text))
    | none => .ok (.layout layout)

/-- What the words with a meaning of their own stand for, but for the one before a level's name. -/
def fixedWord? (word : String) : Option Expr :=
  match word with
  | "level" => some .level
  | "logger" => some .logger
  | "message" => some .message
  | "exception" => some .exception
  | "true" => some (.literal (.bool true))
  | "false" => some (.literal (.bool false))
  | "null" => some (.literal .null)
  | _ => none

/-- The call of a method by its name. -/
def bind (resolve : Resolver) (name : String) (arguments : List Expr) : Except ParseError Expr :=
  match resolve name arguments.length with
  | .error cause => .error (.unresolved name cause)
  | .ok none => .error (.unresolved name (.unknownMethod name))
  | .ok (some method) => .ok (.call name arguments method)

/-- The level after the word that announces one: a point and a name. -/
def parseLevel (ts : Tokens) : Except ParseError (Parsed Expr ts.size) := do
  let ⟨afterDot, hd⟩ ← ts.expect .dot
  let (name, ⟨rest, hr⟩) ← afterDot.eatKeyword
  match Level.ofName? name with
  | some level => .ok ⟨.literal (.level level), rest, Nat.lt_trans hr hd⟩
  | none => .error (.unknownLevel name)

/-- A number, of which the first token is the digits. -/
def parseNumber (negative : Bool) (ts : Tokens) : Except ParseError (Parsed Expr ts.size) := do
  let t ← ts.head
  let ⟨rest, h⟩ ← ts.advance
  let e ← numberLiteral negative t.text
  .ok ⟨e, rest, h⟩

/-- A string. -/
def parseString (compile : LayoutCompiler) (ts : Tokens) :
    Except ParseError (Parsed Expr ts.size) := do
  let t ← ts.head
  let ⟨rest, h⟩ ← ts.advance
  let e ← stringLiteral compile t.stringValue
  .ok ⟨e, rest, h⟩

mutual

/-- Operands of `or`. -/
def parseOr (env : Surroundings) (ts : Tokens) : Except ParseError (Parsed Expr ts.size) := do
  let left ← parseAnd env ts
  have hl := left.fewer
  let all ← moreOr env left.value left.rest
  .ok (all.widen hl)
termination_by (ts.size, 5)

/-- What follows the operands of `or` that were parsed. -/
def moreOr (env : Surroundings) (left : Expr) (ts : Tokens) :
    Except ParseError (Parsed Expr (ts.size + 1)) :=
  if ts.startsWithWord "or" || ts.startsWith .or then do
    let ⟨afterOr, ho⟩ ← ts.advance
    let right ← parseAnd env afterOr
    have hr := right.fewer
    let all ← moreOr env (.or left right.value) right.rest
    .ok (all.widen (by omega))
  else .ok ⟨left, ts, Nat.lt_succ_self _⟩
termination_by (ts.size, 0)

/-- Operands of `and`. -/
def parseAnd (env : Surroundings) (ts : Tokens) : Except ParseError (Parsed Expr ts.size) := do
  let left ← parseNot env ts
  have hl := left.fewer
  let all ← moreAnd env left.value left.rest
  .ok (all.widen hl)
termination_by (ts.size, 4)

/-- What follows the operands of `and` that were parsed. -/
def moreAnd (env : Surroundings) (left : Expr) (ts : Tokens) :
    Except ParseError (Parsed Expr (ts.size + 1)) :=
  if ts.startsWithWord "and" || ts.startsWith .and then do
    let ⟨afterAnd, ha⟩ ← ts.advance
    let right ← parseNot env afterAnd
    have hr := right.fewer
    let all ← moreAnd env (.and left right.value) right.rest
    .ok (all.widen (by omega))
  else .ok ⟨left, ts, Nat.lt_succ_self _⟩
termination_by (ts.size, 0)

/-- Any number of `not` and a comparison. -/
def parseNot (env : Surroundings) (ts : Tokens) : Except ParseError (Parsed Expr ts.size) :=
  if ts.startsWithWord "not" || ts.startsWith .not then do
    let ⟨afterNot, hn⟩ ← ts.advance
    let inner ← parseNot env afterNot
    .ok ((inner.map Expr.not).widen (Nat.le_of_lt hn))
  else parseRelation env ts
termination_by (ts.size, 3)

/-- One operand, or two with a comparison between them. -/
def parseRelation (env : Surroundings) (ts : Tokens) : Except ParseError (Parsed Expr ts.size) := do
  let left ← parseOperand env ts
  have hl := left.fewer
  let t ← left.rest.head
  match t.kind.relation? with
  | none => .ok left
  | some relation => do
    let ⟨afterSign, hs⟩ ← left.rest.advance
    let right ← parseOperand env afterSign
    .ok ((right.map (Expr.relation relation left.value)).widen (by omega))
termination_by (ts.size, 2)

/-- An operand. -/
def parseOperand (env : Surroundings) (ts : Tokens) : Except ParseError (Parsed Expr ts.size) := do
  let t ← ts.head
  match t.kind with
  | .leftParen => do
    let ⟨afterOpen, ho⟩ ← ts.advance
    let inner ← parseOr env afterOpen
    have hi := inner.fewer
    let ⟨rest, hr⟩ ← inner.rest.expect .rightParen
    .ok ⟨inner.value, rest, by omega⟩
  | .minus => do
    let ⟨afterMinus, hm⟩ ← ts.advance
    let digits ← afterMinus.head
    if digits.kind = .number then
      let number ← parseNumber true afterMinus
      .ok (number.widen (Nat.le_of_lt hm))
    else .error (.numberExpected digits.kind)
  | .number => parseNumber false ts
  | .string => parseString env.compile ts
  | .keyword => do
    let ⟨rest, hr⟩ ← ts.advance
    let word := String.ofList (t.text.toList.map Char.toLower)
    match fixedWord? word with
    | some e => .ok ⟨e, rest, hr⟩
    | none =>
      if word = "loglevel" then
        let level ← parseLevel rest
        .ok (level.widen (Nat.le_of_lt hr))
      else if rest.startsWith .leftParen then
        let ⟨afterOpen, ho⟩ ← rest.advance
        let arguments ← parseArguments env afterOpen
        have ha := arguments.fewer
        let ⟨afterClose, hc⟩ ← arguments.rest.expect .rightParen
        let e ← bind env.resolve t.text arguments.value
        .ok ⟨e, afterClose, by omega⟩
      else .error (.unexpectedToken t.text t.position)
  | _ => .error (.unexpectedToken t.text t.position)
termination_by (ts.size, 1)

/-- Arguments up to a closing parenthesis, each but the last followed by a comma. The last one may
be followed by a comma too. -/
def parseArguments (env : Surroundings) (ts : Tokens) :
    Except ParseError (Parsed (List Expr) (ts.size + 1)) := do
  let t ← ts.head
  if t.kind = .endOfInput ∨ t.kind = .rightParen then
    .ok ⟨[], ts, Nat.lt_succ_self _⟩
  else
    let first ← parseOr env ts
    have hf := first.fewer
    if first.rest.startsWith .comma then
      let ⟨afterComma, hc⟩ ← first.rest.advance
      let more ← parseArguments env afterComma
      .ok ((more.map (first.value :: ·)).widen (by omega))
    else .ok ⟨[first.value], first.rest, by omega⟩
termination_by (ts.size, 6)

end

end Parser

/-- The condition at the start of a text and the place where it ends: the end of the text, or a
closing brace or colon outside of strings. -/
def Expr.parseEmbedded (env : Surroundings) (text : String) : Except ParseError (Expr × Nat) := do
  let parsed ← Parser.parseOr env (Tokens.ofText text)
  let t ← parsed.rest.head
  if t.kind = .endOfInput then .ok (parsed.value, t.position)
  else .error (.unexpectedToken t.text t.position)

/-- The condition that a text is. -/
def Expr.parse (env : Surroundings) (text : String) : Except ParseError Expr := do
  let parsed ← Parser.parseOr env (Tokens.ofText text)
  let t ← parsed.rest.head
  if t.kind = .endOfInput then .ok parsed.value
  else .error (.unexpectedToken t.text t.position)

end LogFilter
