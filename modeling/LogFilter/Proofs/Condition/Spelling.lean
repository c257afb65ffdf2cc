import LogFilter.Proofs.Condition.Lexing
import LogFilter.Proofs.Condition.Tree
import LogFilter.Proofs.Decimal.ReadBack

/-!
# The words of the canonical form

Which words the canonical form of an expression is cut into. Every compound expression stands in
parentheses, so after any part comes a blank, a parenthesis or a comma, and no word runs into the
next one: `begins_render`.

Doubles that are not finite are written with a letter in front, so they become keywords.
-/

namespace LogFilter

open Text

instance (text : List Char) : Decidable (IsKeyword text) :=
  match text with
  | [] => .isFalse (by rintro ⟨c, r, h, _⟩; exact absurd h (by simp))
  | c :: r =>
    decidable_of_iff
      (Lexeme.startsKeyword c = true ∧ r.all Lexeme.continuesKeyword = true) <| by
        rw [List.all_eq_true]
        constructor
        · intro h
          exact ⟨c, r, rfl, h⟩
        · rintro ⟨_, _, ⟨⟩, h⟩
          exact h

/-! ## Words -/

namespace Word

def keyword (s : String) : Word := ⟨.keyword, s.toList⟩

def leftParen : Word := ⟨.leftParen, ['(']⟩

def rightParen : Word := ⟨.rightParen, [')']⟩

def comma : Word := ⟨.comma, [',']⟩

def dot : Word := ⟨.dot, ['.']⟩

def minus : Word := ⟨.minus, ['-']⟩

end Word

/-- The kind of the sign that a comparison is written with. -/
def Relation.kind : Relation → TokenKind
  | .equal => .equalTo
  | .notEqual => .notEqual
  | .less => .less
  | .greater => .greater
  | .lessOrEqual => .lessOrEqual
  | .greaterOrEqual => .greaterOrEqual

def Relation.word (r : Relation) : Word := ⟨r.kind, r.symbol.toList⟩

theorem Relation.kind_relation? (r : Relation) : r.kind.relation? = some r := by
  cases r <;> rfl

/-- A word after its sign. -/
def signedWords (negative : Bool) (w : Word) : List Word :=
  if negative then [.minus, w] else [w]

/-- The words of a literal. Dates and exceptions have no literals. -/
def Value.words : Value → List Word
  | null => [.keyword "null"]
  | bool true => [.keyword "True"]
  | bool false => [.keyword "False"]
  | int i => signedWords (decide (i.toInt < 0)) ⟨.number, Decimal.digitChars i.toInt.natAbs⟩
  | float x =>
    if Decimal.isNaN x then [.keyword "NaN"]
    else signedWords (Decimal.isNegative x)
      (if Decimal.isInfinite x then .keyword "Infinity"
      else ⟨.number, Decimal.magnitudeText Decimal.valueStyle (Decimal.magnitudeBits x)⟩)
  | string s => [⟨.string, quotedText s⟩]
  | level l => [.keyword "loglevel", .dot, .keyword l.name]
  | date _ => []
  | exception _ => []

/-- Values that have literals. -/
def Value.IsLiteral : Value → Prop
  | date _ => False
  | exception _ => False
  | _ => True

namespace Expr

mutual

/-- The words of the canonical form. -/
def words : Expr → List Word
  | literal v => v.words
  | layout l => [⟨.string, quotedText l.template⟩]
  | level => [.keyword "level"]
  | logger => [.keyword "logger"]
  | message => [.keyword "message"]
  | exception => [.keyword "exception"]
  | call name arguments _ =>
    .keyword name :: .leftParen :: (wordsAll arguments ++ [.rightParen])
  | not a => .leftParen :: .keyword "not" :: (a.words ++ [.rightParen])
  | and a b => .leftParen :: (a.words ++ .keyword "and" :: (b.words ++ [.rightParen]))
  | or a b => .leftParen :: (a.words ++ .keyword "or" :: (b.words ++ [.rightParen]))
  | relation r a b => .leftParen :: (a.words ++ r.word :: (b.words ++ [.rightParen]))

/-- The words of expressions with commas between them. -/
def wordsAll : List Expr → List Word
  | [] => []
  | [a] => a.words
  | a :: as => a.words ++ .comma :: wordsAll as

end

/-- An expression that can be cut into words: its values have literals, and the names of its calls
are keywords. -/
def IsSpelled : Expr → Prop
  | literal v => v.IsLiteral
  | call name _ _ => IsKeyword name.toList
  | _ => True

end Expr

/-! ## What stands between words -/

/-- The characters that come after a part of a canonical form. -/
def isDelimiter (c : Char) : Bool := c = ' ' || c = '(' || c = ')' || c = ','

/-- A text that no word before it runs into. -/
def Delimited (rest : List Char) : Prop := ∀ c ∈ rest.head?, isDelimiter c = true

theorem delimited_nil : Delimited [] := by simp [Delimited]

theorem delimited_cons {c : Char} {r : List Char} (h : isDelimiter c = true) :
    Delimited (c :: r) := by
  intro d hd
  obtain rfl : c = d := by simpa using hd
  exact h

theorem Delimited.stops {p : Char → Bool} {rest : List Char} (h : Delimited rest)
    (hp : [' ', '(', ')', ','].any p = false) : Stops p rest := by
  intro c hc
  have := h c hc
  simp only [isDelimiter, Bool.or_eq_true, decide_eq_true_eq] at this
  rw [← Bool.not_eq_true]
  exact List.any_eq_false.1 hp c (by simpa [or_assoc] using this)

theorem begins_keyword_of_delimited {s : String} {rest : List Char} (h : IsKeyword s.toList)
    (hr : Delimited rest) : Begins (s.toList ++ rest) [.keyword s] rest :=
  begins_keyword h (hr.stops (by decide))

theorem begins_number_of_delimited {text rest : List Char} (h : IsNumeral text)
    (hr : Delimited rest) : Begins (text ++ rest) [⟨.number, text⟩] rest :=
  begins_number h (hr.stops (by decide))

theorem begins_quoted_of_delimited {s : String} {rest : List Char} (hr : Delimited rest) :
    Begins (quotedText s ++ rest) [⟨.string, quotedText s⟩] rest :=
  begins_quoted (hr.stops (by decide))

theorem begins_punctuation {c : Char} {kind : TokenKind} {rest : List Char}
    (h : Lexeme.punctuation? c = some kind) : Begins (c :: rest) [⟨kind, [c]⟩] rest := by
  unfold Lexeme.punctuation? at h
  split at h <;> simp only [Option.some.injEq, reduceCtorEq] at h <;> subst h
  all_goals
    refine begins_of_lexeme rfl fun d hd => ?_
    obtain rfl : _ = d := by simpa using hd
    decide

theorem begins_relation (r : Relation) {rest : List Char} :
    Begins (r.symbol.toList ++ ' ' :: rest) [r.word] (' ' :: rest) := by
  cases r <;>
  · refine begins_of_lexeme rfl fun d hd => ?_
    obtain rfl : _ = d := by simpa using hd
    decide

/-! ## Literals -/

theorem begins_signed {negative : Bool} {text rest : List Char} {w : Word}
    (h : Begins (text ++ rest) [w] rest) :
    Begins ((if negative then '-' :: text else text) ++ rest) (signedWords negative w) rest := by
  cases negative with
  | true => exact (begins_punctuation rfl).append h
  | false => exact h

theorem isNumeral_digitChars (n : Nat) : IsNumeral (Decimal.digitChars n) :=
  Or.inl ⟨Decimal.digitChars_ne_nil n, fun _ => Decimal.isDigit_of_mem_digitChars⟩

theorem Decimal.IsPointNumeral.isNumeral {text : List Char} {bits : Nat}
    (h : IsPointNumeral text bits) : IsNumeral text := by
  obtain ⟨whole, fraction, rfl, hne, hw, hf, _⟩ := h
  exact Or.inr ⟨whole, fraction, rfl, hne, hw, hf⟩

theorem begins_float {x : Float} {rest : List Char} (hr : Delimited rest) :
    Begins (Decimal.doubleText Decimal.valueStyle x ++ rest) (Value.float x).words rest := by
  rw [Decimal.doubleText, Value.words]
  split
  · exact begins_keyword_of_delimited (by decide +kernel) hr
  next hn =>
  refine begins_signed ?_
  split
  · exact begins_keyword_of_delimited (by decide +kernel) hr
  next hi =>
  have hfin : Decimal.magnitudeBits x < Decimal.infinityBits := by
    simp only [Decimal.isNaN, Decimal.isInfinite, decide_eq_true_eq, beq_iff_eq] at hn hi
    omega
  exact begins_number_of_delimited (Decimal.isPointNumeral_magnitudeText hfin).isNumeral hr

theorem begins_literal {v : Value} {rest : List Char} (h : v.IsLiteral) (hr : Delimited rest) :
    Begins (v.literalText ++ rest) v.words rest := by
  cases v with
  | null => exact begins_keyword_of_delimited (by decide +kernel) hr
  | bool b => cases b <;> exact begins_keyword_of_delimited (by decide +kernel) hr
  | int i =>
    have htext : (Value.int i).literalText = (toString i.toInt).toList := rfl
    rw [htext, Decimal.toList_toString_int]
    exact begins_signed (begins_number_of_delimited (isNumeral_digitChars _) hr)
  | float x =>
    have htext : (Value.float x).literalText = Decimal.doubleText Decimal.valueStyle x :=
      String.toList_ofList
    rw [htext]
    exact begins_float hr
  | string s => exact begins_quoted_of_delimited hr
  | level l =>
    have hname : IsKeyword l.name.toList := by cases l <;> decide +kernel
    -- a point is no delimiter, but it does not go on with a keyword either
    have hdot : Stops Lexeme.continuesKeyword ('.' :: (l.name.toList ++ rest)) := by
      intro c hc
      obtain rfl : '.' = c := by simpa using hc
      decide
    have htext : (Value.level l).literalText = "loglevel".toList ++ '.' :: l.name.toList := rfl
    rw [htext, List.append_assoc]
    exact (begins_keyword (show IsKeyword "loglevel".toList by decide +kernel) hdot).cons
      ((begins_punctuation rfl).cons (begins_keyword_of_delimited hname hr))
  | date _ | exception _ => exact absurd h (by simp [Value.IsLiteral])

/-! ## Expressions -/

/-- Parts with commas between them, if each part begins with its words. -/
theorem begins_renderAll {arguments : List Expr}
    (h : ∀ a ∈ arguments, ∀ rest, Delimited rest → Begins (a.render ++ rest) a.words rest)
    {rest : List Char} (hr : Delimited rest) :
    Begins (Expr.renderAll arguments ++ rest) (Expr.wordsAll arguments) rest := by
  induction arguments with
  | nil => exact fun offset => ⟨offset, .none⟩
  | cons a as ih =>
    obtain ⟨ha, has⟩ := List.forall_mem_cons.1 h
    cases as with
    | nil => exact ha rest hr
    | cons b bs =>
      rw [Expr.renderAll, Expr.wordsAll, List.append_assoc]
      · exact (ha _ (delimited_cons rfl)).append
          ((begins_punctuation rfl).cons (.blank rfl (ih has)))
      · simp
      · simp

/-- An operand, an operator between blanks, and an operand, all in parentheses. -/
theorem begins_binary {a b : Expr} {sign : List Char} {w : Word} {rest : List Char}
    (ha : ∀ rest, Delimited rest → Begins (a.render ++ rest) a.words rest)
    (hb : ∀ rest, Delimited rest → Begins (b.render ++ rest) b.words rest)
    (hw : ∀ r, Begins (sign ++ ' ' :: r) [w] (' ' :: r)) :
    Begins ('(' :: (a.render ++ ' ' :: (sign ++ ' ' :: (b.render ++ [')']))) ++ rest)
      (.leftParen :: (a.words ++ w :: (b.words ++ [.rightParen]))) rest := by
  simp only [List.cons_append, List.append_assoc, List.nil_append]
  refine (begins_punctuation rfl).cons ((ha _ (delimited_cons rfl)).append (.blank rfl ?_))
  exact (hw _).cons (.blank rfl ((hb _ (delimited_cons rfl)).append (begins_punctuation rfl)))

theorem begins_keyword_blank {s : String} {r : List Char} (h : IsKeyword s.toList) :
    Begins (s.toList ++ ' ' :: r) [.keyword s] (' ' :: r) :=
  begins_keyword_of_delimited h (delimited_cons rfl)

theorem begins_connective {a b : Expr} {s : String} {rest : List Char} (h : IsKeyword s.toList)
    (ha : ∀ rest, Delimited rest → Begins (a.render ++ rest) a.words rest)
    (hb : ∀ rest, Delimited rest → Begins (b.render ++ rest) b.words rest) :
    Begins ('(' :: (a.render ++ (' ' :: (s.toList ++ [' '])) ++ b.render ++ [')']) ++ rest)
      (.leftParen :: (a.words ++ .keyword s :: (b.words ++ [.rightParen]))) rest := by
  have hbinary : Begins _ _ rest := begins_binary ha hb fun r => begins_keyword_blank h
  simpa only [List.append_assoc, List.cons_append, List.nil_append] using hbinary

/-- **The canonical form of an expression begins with its words, whatever delimits it.** -/
theorem begins_render {e : Expr} (h : e.All Expr.IsSpelled) :
    ∀ rest, Delimited rest → Begins (e.render ++ rest) e.words rest := by
  induction e using Expr.induction with
  | step e ih =>
    -- the parts begin with their words, so only what stands around them is left
    have inside := fun c hc => ih c hc (h.inside hc)
    intro rest hr
    cases e with
    | literal v => exact begins_literal h.here hr
    | layout l => exact begins_quoted_of_delimited hr
    | level | logger | message | exception =>
      exact begins_keyword_of_delimited (by decide +kernel) hr
    | call name arguments method =>
      show Begins ((name.toList ++ '(' :: (Expr.renderAll arguments ++ [')'])) ++ rest)
        (.keyword name :: .leftParen :: (Expr.wordsAll arguments ++ [.rightParen])) rest
      simp only [List.append_assoc, List.cons_append, List.nil_append]
      refine (begins_keyword_of_delimited h.here (delimited_cons rfl)).cons ?_
      refine (begins_punctuation rfl).cons ?_
      exact (begins_renderAll inside (delimited_cons rfl)).append (begins_punctuation rfl)
    | not a =>
      have ha := inside a (by simp [Expr.children])
      show Begins ('(' :: ("not".toList ++ ' ' :: (a.render ++ [')'])) ++ rest)
        (.leftParen :: .keyword "not" :: (a.words ++ [.rightParen])) rest
      simp only [List.append_assoc, List.cons_append, List.nil_append]
      refine (begins_punctuation rfl).cons ((begins_keyword_blank (by decide +kernel)).cons ?_)
      exact .blank rfl ((ha _ (delimited_cons rfl)).append (begins_punctuation rfl))
    | and a b =>
      exact begins_connective (s := "and") (by decide +kernel)
        (inside a (by simp [Expr.children])) (inside b (by simp [Expr.children]))
    | or a b =>
      exact begins_connective (s := "or") (by decide +kernel)
        (inside a (by simp [Expr.children])) (inside b (by simp [Expr.children]))
    | relation r a b =>
      exact begins_binary (inside a (by simp [Expr.children])) (inside b (by simp [Expr.children]))
        fun _ => begins_relation r

/-- **The canonical form is cut into the words of the expression.** -/
theorem words_ofText_text {e : Expr} (h : e.All Expr.IsSpelled) :
    (Tokens.ofText e.text).IsComplete ∧ (Tokens.ofText e.text).words = e.words := by
  refine begins_nil ?_
  have hbegins := begins_render h [] delimited_nil
  rwa [List.append_nil, ← String.toList_ofList (l := e.render)] at hbegins

end LogFilter
