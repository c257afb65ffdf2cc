import LogFilter.Condition.Error
import LogFilter.Text.Blank
import LogFilter.Text.Letter

/-!
# Lexemes

How a text is cut into tokens: what the first token of a text is, its characters and what follows
them. The classes of tokens are told apart by the first character alone:

* digits start a number, which may have one point;
* a quote starts a string, in which two quotes in a row stand for one;
* a letter or a low line starts a keyword, which goes on with letters, numbers, low lines and hyphens;
* a closing brace and a colon end the text of a condition, like its end;
* operators take their second character if it is there.

The main lemmas are `Lexeme.of_append`, that the characters of a token and the rest make up the
text, and `Lexeme.of_ne_nil`, that a token has characters.
-/

namespace LogFilter

/-- What a text without blanks in front starts with. -/
inductive Lexeme
  /-- A token with its characters, and the rest. -/
  | token (kind : TokenKind) (text rest : List Char)
  /-- The end of the condition. -/
  | finish
  /-- No token. What was read before that was seen is gone. -/
  | failure (fault : LexicalFault) (read rest : List Char)

namespace Lexeme

open Text

/-- The characters of a number and what follows, where a point may still come or not. -/
def spanNumber (seenPoint : Bool) : List Char → List Char × List Char
  | [] => ([], [])
  | c :: r =>
    if c.isDigit then
      match spanNumber seenPoint r with
      | (digits, rest) => (c :: digits, rest)
    else if c = '.' && !seenPoint then
      match spanNumber true r with
      | (digits, rest) => (c :: digits, rest)
    else ([], c :: r)

/-- The characters of a string after its opening quote, with the closing one, and what follows. -/
def spanString? : List Char → Option (List Char × List Char)
  | [] => none
  | '\'' :: '\'' :: r => (spanString? r).map fun p => ('\'' :: '\'' :: p.1, p.2)
  | '\'' :: r => some (['\''], r)
  | c :: r => (spanString? r).map fun p => (c :: p.1, p.2)

/-- Characters with which keywords start. -/
def startsKeyword (c : Char) : Bool := c = '_' || isAlphabetic c

/-- Characters with which keywords go on. -/
def continuesKeyword (c : Char) : Bool := c = '_' || c = '-' || isAlphanumeric c

/-- The kind of a single character of punctuation. -/
def punctuation? : Char → Option TokenKind
  | '(' => some .leftParen
  | ')' => some .rightParen
  | '.' => some .dot
  | ',' => some .comma
  | '-' => some .minus
  | _ => none

/-- The operator at the start of a text. -/
def operator? : List Char → Option Lexeme
  | '<' :: '>' :: r => some (.token .notEqual ['<', '>'] r)
  | '<' :: '=' :: r => some (.token .lessOrEqual ['<', '='] r)
  | '<' :: r => some (.token .less ['<'] r)
  | '>' :: '=' :: r => some (.token .greaterOrEqual ['>', '='] r)
  | '>' :: r => some (.token .greater ['>'] r)
  | '!' :: '=' :: r => some (.token .notEqual ['!', '='] r)
  | '!' :: r => some (.token .not ['!'] r)
  | '=' :: '=' :: r => some (.token .equalTo ['=', '='] r)
  | '=' :: r => some (.token .equalTo ['='] r)
  | '&' :: '&' :: r => some (.token .and ['&', '&'] r)
  | '&' :: r => some (.failure (.incompleteOperator '&') ['&'] r)
  | '|' :: '|' :: r => some (.token .or ['|', '|'] r)
  | '|' :: r => some (.failure (.incompleteOperator '|') ['|'] r)
  | _ => none

/-- What a text that starts with punctuation or with nothing of the language starts with. -/
def ofPunctuation (c : Char) (r : List Char) : Lexeme :=
  if ' ' ≤ c && c ≤ '\x7f' then
    match punctuation? c with
    | some kind => .token kind [c] r
    | none => .failure (.invalidPunctuation c) [] (c :: r)
  else .failure (.invalidToken c) [] (c :: r)

/-- What a text starts with. -/
def of : List Char → Lexeme
  | [] => .finish
  | c :: r =>
    if c.isDigit then .token .number (spanNumber false (c :: r)).1 (spanNumber false (c :: r)).2
    else if c = '\'' then
      match spanString? r with
      | some p => .token .string (c :: p.1) p.2
      | none => .failure .unterminatedString (c :: r) []
    else if startsKeyword c then
      .token .keyword (c :: r.takeWhile continuesKeyword) (r.dropWhile continuesKeyword)
    else if c = '\x7d' || c = ':' then .finish
    else (operator? (c :: r)).getD (ofPunctuation c r)

/-! ## Nothing is lost -/

theorem spanNumber_append (seenPoint : Bool) (s : List Char) :
    (spanNumber seenPoint s).1 ++ (spanNumber seenPoint s).2 = s := by
  fun_induction spanNumber seenPoint s <;> simp_all

theorem spanString?_append {s : List Char} {p : List Char × List Char}
    (h : spanString? s = some p) : p.1 ++ p.2 = s := by
  fun_induction spanString? s generalizing p with
  | case1 => simp at h
  | case2 r ih =>
    obtain ⟨q, hq, rfl⟩ := Option.map_eq_some_iff.1 h
    simp [ih hq]
  | case3 r =>
    simp only [Option.some.injEq] at h
    subst h
    simp
  | case4 c r _ _ ih =>
    obtain ⟨q, hq, rfl⟩ := Option.map_eq_some_iff.1 h
    simp [ih hq]

/-- A lexeme that came out of a text has all of its characters. -/
def Covers (s : List Char) : Lexeme → Prop
  | token _ text rest => text ++ rest = s ∧ text ≠ []
  | finish => True
  | failure _ read rest => read ++ rest = s

theorem operator?_covers {s : List Char} {l : Lexeme} (h : operator? s = some l) : l.Covers s := by
  unfold operator? at h
  split at h <;> simp only [Option.some.injEq, reduceCtorEq] at h <;> subst h <;> simp [Covers]

theorem ofPunctuation_covers (c : Char) (r : List Char) : (ofPunctuation c r).Covers (c :: r) := by
  unfold ofPunctuation
  split
  next => split <;> simp [Covers]
  next => simp [Covers]

theorem of_covers (s : List Char) : (of s).Covers s := by
  unfold of
  split
  next => trivial
  next c r =>
    split
    next hd =>
      refine ⟨spanNumber_append false (c :: r), ?_⟩
      simp [spanNumber, hd]
    next =>
      split
      next hq =>
        split
        next p hp => simp [Covers, spanString?_append hp]
        next => simp [Covers]
      next =>
        split
        next => simp [Covers, List.takeWhile_append_dropWhile]
        next =>
          split
          next => trivial
          next =>
            cases ho : operator? (c :: r) with
            | none => exact ofPunctuation_covers c r
            | some l => exact operator?_covers ho

/-- The characters of a token and the rest make up the text. -/
theorem of_append {s text rest : List Char} {kind : TokenKind} (h : of s = .token kind text rest) :
    text ++ rest = s := by
  have := of_covers s
  rw [h] at this
  exact this.1

/-- A token has characters. -/
theorem of_ne_nil {s text rest : List Char} {kind : TokenKind} (h : of s = .token kind text rest) :
    text ≠ [] := by
  have := of_covers s
  rw [h] at this
  exact this.2

/-- What follows a token is shorter than the text. -/
theorem of_shorter {s text rest : List Char} {kind : TokenKind} (h : of s = .token kind text rest) :
    rest.length < s.length := by
  have happend := congrArg List.length (of_append h)
  have hne := List.length_pos_iff.2 (of_ne_nil h)
  rw [List.length_append] at happend
  omega

end Lexeme

end LogFilter
