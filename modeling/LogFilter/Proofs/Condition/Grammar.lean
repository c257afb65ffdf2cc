import LogFilter.Proofs.Condition.Words
import LogFilter.Proofs.Decimal.Numeral
import Mathlib.Algebra.Group.Int.Defs

/-!
# The grammar of conditions

What the words of a condition derive, written without the parser. There are five productions, from
the loosest to the tightest: `or`, `and`, `not`, one comparison of two operands, and operands.

* `or` and `and` have the production itself on their left side, so they group to the left.
* A comparison has operands on both sides, so comparisons do not chain.
* A word that denies is always taken as the operator where a production `not` starts, even if there
  is a method of its name.

`Derives env production ws e` says that the words `ws` derive from a production and that `e` is the
tree of the derivation. The surroundings `env` decide about calls and about strings.
-/

namespace LogFilter

/-! ## Words -/

namespace Word

/-- The word is a keyword with this name in any ASCII case. -/
def Says (w : Word) (name : String) : Prop :=
  w.kind = .keyword ∧ Text.sameIgnoringAsciiCase w.text name.toList = true

instance (w : Word) (name : String) : Decidable (w.Says name) :=
  inferInstanceAs (Decidable (_ ∧ _))

/-- An operator that has a sign and a name. -/
def IsOperator (sign : TokenKind) (name : String) (w : Word) : Prop := w.Says name ∨ w.kind = sign

instance (sign : TokenKind) (name : String) (w : Word) : Decidable (w.IsOperator sign name) :=
  inferInstanceAs (Decidable (_ ∨ _))

theorem IsOperator.kind_ne {sign kind : TokenKind} {name : String} {w : Word}
    (h : w.IsOperator sign name) (hkeyword : kind ≠ .keyword) (hsign : kind ≠ sign) :
    w.kind ≠ kind := by
  rintro rfl
  rcases h with ⟨h, _⟩ | h
  · exact hkeyword h
  · exact hsign h

abbrev IsOr : Word → Prop := IsOperator .or "or"

abbrev IsAnd : Word → Prop := IsOperator .and "and"

abbrev IsNot : Word → Prop := IsOperator .not "not"

end Word

/-- The words that are operands by themselves, and what they stand for. -/
def fixedWords : List (String × Expr) :=
  [("level", .level), ("logger", .logger), ("message", .message), ("exception", .exception),
    ("true", .literal (.bool true)), ("false", .literal (.bool false)), ("null", .literal .null)]

/-- The words that name no method. -/
def reservedWords : List String := "loglevel" :: fixedWords.map Prod.fst

/-! ## Operands of one word -/

/-- The number that digits stand for after a sign. -/
def signedValue (negative : Bool) (digits : List Char) : Int :=
  if negative then -(Decimal.digitsValue digits : Int) else Decimal.digitsValue digits

/-- What a numeral denotes after a sign. With a point it is the double next to it, else a whole
number, which must fit 64 bits with a sign. -/
inductive Denotes (negative : Bool) : List Char → Value → Prop
  | whole {digits : List Char} (hne : digits ≠ []) (hd : ∀ c ∈ digits, c.isDigit = true)
      (hlow : -(2 : Int) ^ 63 ≤ signedValue negative digits)
      (hhigh : signedValue negative digits < 2 ^ 63) :
      Denotes negative digits (.int (Int64.ofInt (signedValue negative digits)))
  | point {text : List Char} {bits : Nat} (h : Decimal.IsPointNumeral text bits) :
      Denotes negative text (.float (Decimal.ofBits negative bits))

/-- What a template stands for: a text if it leaves nothing to the event, else its layout. -/
inductive Compiles (compile : LayoutCompiler) (template : String) : Expr → Prop
  | constant {l : Layout} {text : String} (h : compile template = .ok l)
      (hf : l.fixedText? = some text) : Compiles compile template (.literal (.string text))
  | varying {l : Layout} (h : compile template = .ok l) (hf : l.fixedText? = none) :
      Compiles compile template (.layout l)

/-! ## Productions -/

/-- Pieces with a comma after each but the last, which may have one too. -/
inductive Separated : List (List Word) → List Word → Prop
  | none : Separated [] []
  | last {ws : List Word} : Separated [ws] ws
  | more {comma : Word} {ws rest : List Word} {pieces : List (List Word)}
      (hc : comma.kind = .comma) (h : Separated pieces rest) :
      Separated (ws :: pieces) (ws ++ comma :: rest)

/-- What words can derive from. -/
inductive Production
  | or | and | not | relation | operand
  deriving DecidableEq, Repr

/-- Words derive from a production, and the derivation has a tree. -/
inductive Derives (env : Surroundings) : Production → List Word → Expr → Prop
  | orFirst {ws : List Word} {e : Expr} (h : Derives env .and ws e) : Derives env .or ws e
  | orMore {sign : Word} {l r : List Word} {a b : Expr} (hl : Derives env .or l a)
      (hs : sign.IsOr) (hr : Derives env .and r b) : Derives env .or (l ++ sign :: r) (.or a b)
  | andFirst {ws : List Word} {e : Expr} (h : Derives env .not ws e) : Derives env .and ws e
  | andMore {sign : Word} {l r : List Word} {a b : Expr} (hl : Derives env .and l a)
      (hs : sign.IsAnd) (hr : Derives env .not r b) : Derives env .and (l ++ sign :: r) (.and a b)
  | not {sign : Word} {ws : List Word} {e : Expr} (hs : sign.IsNot) (h : Derives env .not ws e) :
      Derives env .not (sign :: ws) (.not e)
  | notNone {ws : List Word} {e : Expr} (h : Derives env .relation ws e)
      (hw : ∀ w ∈ ws.head?, ¬w.IsNot) : Derives env .not ws e
  | relationOne {ws : List Word} {e : Expr} (h : Derives env .operand ws e) :
      Derives env .relation ws e
  | relation {sign : Word} {l r : List Word} {a b : Expr} {relation : Relation}
      (hl : Derives env .operand l a) (hs : sign.kind.relation? = some relation)
      (hr : Derives env .operand r b) :
      Derives env .relation (l ++ sign :: r) (.relation relation a b)
  | parens {opening closing : Word} {ws : List Word} {e : Expr} (ho : opening.kind = .leftParen)
      (h : Derives env .or ws e) (hc : closing.kind = .rightParen) :
      Derives env .operand (opening :: (ws ++ [closing])) e
  | number {w : Word} {v : Value} (hw : w.kind = .number) (h : Denotes false w.text v) :
      Derives env .operand [w] (.literal v)
  | negative {minus w : Word} {v : Value} (hm : minus.kind = .minus) (hw : w.kind = .number)
      (h : Denotes true w.text v) : Derives env .operand [minus, w] (.literal v)
  | string {w : Word} {template : String} {e : Expr} (hw : w.kind = .string)
      (hq : w.text = quotedText template) (h : Compiles env.compile template e) :
      Derives env .operand [w] e
  | word {w : Word} {name : String} {e : Expr} (hw : w.Says name) (h : (name, e) ∈ fixedWords) :
      Derives env .operand [w] e
  | level {w dot name : Word} {level : Level} (hw : w.Says "loglevel") (hd : dot.kind = .dot)
      (hn : name.Says level.name) : Derives env .operand [w, dot, name] (.literal (.level level))
  | call {name opening closing : Word} {arguments : List (List Word × Expr)} {ws : List Word}
      {method : Method} (hn : name.kind = .keyword)
      (hr : ∀ reserved ∈ reservedWords, ¬name.Says reserved) (ho : opening.kind = .leftParen)
      (hs : Separated (arguments.map Prod.fst) ws)
      (h : ∀ p ∈ arguments, Derives env .or p.1 p.2) (hc : closing.kind = .rightParen)
      (hm : env.resolve (String.ofList name.text) arguments.length = .ok (some method)) :
      Derives env .operand (name :: opening :: (ws ++ [closing]))
        (.call (String.ofList name.text) (arguments.map Prod.snd) method)

/-- The kinds of words with which productions start. -/
def TokenKind.Starts (kind : TokenKind) : Prop :=
  kind ∈ [leftParen, minus, number, string, keyword, not]

/-- What derives from a production has a first word of one of a few kinds. -/
theorem Derives.starts {env : Surroundings} {production : Production} {ws : List Word} {e : Expr}
    (h : Derives env production ws e) : ∃ w rest, ws = w :: rest ∧ w.kind.Starts := by
  induction h with
  | orFirst _ ih => exact ih
  | andFirst _ ih => exact ih
  | notNone _ _ ih => exact ih
  | relationOne _ ih => exact ih
  | orMore _ _ _ ih _ | andMore _ _ _ ih _ | relation _ _ _ ih _ =>
    obtain ⟨w, rest, rfl, hw⟩ := ih
    exact ⟨w, _, rfl, hw⟩
  | not hs _ _ =>
    refine ⟨_, _, rfl, ?_⟩
    rcases hs with hs | hs
    · simp [TokenKind.Starts, hs.1]
    · simp [TokenKind.Starts, hs]
  | parens ho _ _ _ => exact ⟨_, _, rfl, by simp [TokenKind.Starts, ho]⟩
  | number hw _ => exact ⟨_, _, rfl, by simp [TokenKind.Starts, hw]⟩
  | negative hm _ _ => exact ⟨_, _, rfl, by simp [TokenKind.Starts, hm]⟩
  | string hw _ _ => exact ⟨_, _, rfl, by simp [TokenKind.Starts, hw]⟩
  | word hw _ => exact ⟨_, _, rfl, by simp [TokenKind.Starts, hw.1]⟩
  | level hw _ _ => exact ⟨_, _, rfl, by simp [TokenKind.Starts, hw.1]⟩
  | call hn _ _ _ _ _ _ _ => exact ⟨_, _, rfl, by simp [TokenKind.Starts, hn]⟩

end LogFilter
