import LogFilter.Calendar.DateTime
import LogFilter.Decimal.Reader
import LogFilter.Text.Hex
import LogFilter.Text.Taken

/-!
# Scalars of TOML

Strings in their four forms, and the words that are numbers, truth values, dates or times.

A line end is a line feed with or without a carriage return before it, and a line feed alone in the
value of a string.
-/

namespace LogFilter.Toml

open Text

/-- A value read from the start of a text, and the rest. -/
abbrev Reading (α : Type) (s : List Char) := Option (Taken α s)

/-! ## Characters -/

/-- Spaces and tabs. -/
def isSpace (c : Char) : Bool := c = ' ' || c = '\t'

/-- Characters that can stand in a string: all but the controls of ASCII other than the tab. -/
def isPlain (c : Char) : Bool := c = '\t' || (0x20 ≤ c.toNat && c.toNat ≠ 0x7F)

/-- Characters that can stand in a comment. -/
def isCommentChar (c : Char) : Bool := c = '\t' || 0x20 ≤ c.toNat

/-- Letters, digits, hyphens and underscores of ASCII, which keys without quotes are made of. -/
def isBareKeyChar (c : Char) : Bool := c.isAlphanum || c = '-' || c = '_'

/-! ## Strings -/

/-- The character of an escape of one letter. -/
def simpleEscape? (c : Char) : Option Char :=
  match c with
  | 'b' => some '\x08'
  | 't' => some '\t'
  | 'n' => some '\n'
  | 'f' => some '\x0c'
  | 'r' => some '\r'
  | '"' => some '"'
  | '\\' => some '\\'
  | _ => none

/-- The character that the text after a backslash stands for: a letter, or a code point in four or
eight hexadecimal digits. -/
def readEscape (s : List Char) : Reading Char s :=
  match s with
  | [] => none
  | c :: r =>
    let codePoint (count : Nat) : Reading Char (c :: r) :=
      if count ≤ r.length then do
        let n ← hexValue? (r.take count)
        let d ← charOf? n
        some (.of d (Rest.drop count r).afterFirst)
      else none
    if c = 'u' then codePoint 4
    else if c = 'U' then codePoint 8
    else (simpleEscape? c).map Taken.first

/-- A string on one line without its first quote, after the characters of `before` in reverse
order. In some strings backslashes begin escapes. -/
def readLineString (quote : Char) (escapes : Bool) (before : List Char) (s : List Char) :
    Reading String s :=
  match s with
  | [] => none
  | c :: r =>
    if c = quote then some (.first (String.ofList before.reverse))
    else if c = '\\' ∧ escapes then do
      let escape ← readEscape r
      have h := escape.shorter
      let rest ← readLineString quote escapes (escape.value :: before) escape.rest
      some (rest.weaken (by simp only [List.length_cons]; omega))
    else if isPlain c then
      (readLineString quote escapes (c :: before) r).map Taken.afterFirst
    else none
termination_by s.length

/-- A text without the line end that it may start with. -/
def afterLineEnd? (s : List Char) : Option (ShorterRest s) :=
  match s with
  | '\n' :: r => some (Rest.all r).afterFirst
  | '\r' :: '\n' :: _ => some Rest.tail.afterFirst
  | _ => none

/-- A text without the blanks and line ends at its start. -/
def skipBlankLines (s : List Char) : List Char :=
  match s with
  | [] => []
  | '\r' :: '\n' :: r => skipBlankLines r
  | c :: r => if isSpace c || c = '\n' then skipBlankLines r else c :: r

theorem length_skipBlankLines_le (s : List Char) : (skipBlankLines s).length ≤ s.length := by
  fun_induction skipBlankLines s <;> simp_all <;> omega

/-- How many quotes a text starts with. -/
def leadingQuotes (quote : Char) (s : List Char) : Nat := (s.takeWhile (· = quote)).length

/-- A string over several lines without its first three quotes, after the characters of `before` in
reverse order. Up to two quotes before the last three belong to it. In strings with escapes a
backslash at the end of a line leaves out the blanks and line ends up to the next character. -/
def readTextString (quote : Char) (escapes : Bool) (before : List Char) (s : List Char) :
    Reading String s :=
  match s with
  | [] => none
  | c :: r =>
    if c = quote ∧ 3 ≤ leadingQuotes quote (c :: r) then
      let kept := Nat.min (leadingQuotes quote (c :: r) - 3) 2
      some ⟨String.ofList ((List.replicate kept quote) ++ before).reverse, r.drop (kept + 2), by
        simp only [List.length_drop, List.length_cons]; omega⟩
    else if c = '\\' ∧ escapes then
      match afterLineEnd? (r.dropWhile isSpace) with
      | some ⟨next, hn⟩ =>
        have h1 := length_dropWhile_le isSpace r
        have h2 := length_skipBlankLines_le next
        (readTextString quote escapes before (skipBlankLines next)).map
          (Taken.weaken (by simp only [List.length_cons]; omega))
      | none => do
        let escape ← readEscape r
        have h := escape.shorter
        let rest ← readTextString quote escapes (escape.value :: before) escape.rest
        some (rest.weaken (by simp only [List.length_cons]; omega))
    else
      match afterLineEnd? (c :: r) with
      | some ⟨next, hn⟩ =>
        (readTextString quote escapes ('\n' :: before) next).map (Taken.later hn)
      | none =>
        if isPlain c then
          (readTextString quote escapes (c :: before) r).map Taken.afterFirst
        else none
termination_by s.length
decreasing_by all_goals simp_all only [List.length_cons] <;> omega

/-- A string over several lines from which the line end after the first three quotes is left out. -/
def readTextStringBody (quote : Char) (escapes : Bool) (s : List Char) : Reading String s :=
  match afterLineEnd? s with
  | some ⟨r, h⟩ => (readTextString quote escapes [] r).map (Taken.later h)
  | none => readTextString quote escapes [] s

/-- A string in double quotes, or in single quotes, where a backslash stands for itself. -/
def readString (s : List Char) : Reading String s :=
  match s with
  | '"' :: '"' :: '"' :: r =>
    (readTextStringBody '"' true r).map (Taken.weaken (by simp only [List.length_cons]; omega))
  | '\'' :: '\'' :: '\'' :: r =>
    (readTextStringBody '\'' false r).map (Taken.weaken (by simp only [List.length_cons]; omega))
  | '"' :: r => (readLineString '"' true [] r).map Taken.afterFirst
  | '\'' :: r => (readLineString '\'' false [] r).map Taken.afterFirst
  | _ => none

/-! ## Numbers -/

/-- What follows digits between which single underscores may stand. -/
def afterDigits? (isDigit : Char → Bool) : List Char → Option (List Char)
  | [] => none
  | c :: r =>
    if isDigit c then
      match r with
      | '_' :: d :: t => if isDigit d then afterDigits? isDigit (d :: t) else some r
      | d :: t => if isDigit d then afterDigits? isDigit (d :: t) else some r
      | [] => some []
    else none

/-- Whether a text is digits, between which single underscores may stand. -/
def areDigits (isDigit : Char → Bool) (s : List Char) : Bool := afterDigits? isDigit s = some []

/-- What follows a decimal whole number without sign, which has no zero in front. -/
def afterWhole? (s : List Char) : Option (List Char) :=
  match s with
  | '0' :: r => some r
  | s => afterDigits? Char.isDigit s

/-- A text without a sign. -/
def dropSign : List Char → List Char
  | '+' :: r => r
  | '-' :: r => r
  | s => s

/-- A text without underscores. -/
def dropUnderscores (s : List Char) : List Char := s.filter (· ≠ '_')

def isOctalDigit (c : Char) : Bool := '0' ≤ c && c ≤ '7'

def isBinaryDigit (c : Char) : Bool := c = '0' || c = '1'

/-- The number that digits of a base stand for. -/
def valueInBase (base : Nat) (s : List Char) : Nat :=
  s.foldl (fun n c => n * base + (hexDigit? c).getD 0) 0

/-- Whether a text is a whole number of 64 bits. -/
def isInteger (s : List Char) : Bool :=
  let based (base : Nat) (isDigit : Char → Bool) (digits : List Char) : Bool :=
    areDigits isDigit digits && valueInBase base (dropUnderscores digits) < 0x8000000000000000
  match s with
  | '0' :: 'x' :: r => based 16 (fun c => (hexDigit? c).isSome) r
  | '0' :: 'o' :: r => based 8 isOctalDigit r
  | '0' :: 'b' :: r => based 2 isBinaryDigit r
  | s => afterWhole? (dropSign s) = some [] && (Decimal.readInt64? (dropUnderscores s)).isSome

/-- What follows the fraction of a number, if there is one. -/
def afterFraction? (s : List Char) : Option (List Char) :=
  match s with
  | '.' :: r => afterDigits? Char.isDigit r
  | s => some s

/-- What follows the exponent of a number, if there is one. -/
def afterExponent? (s : List Char) : Option (List Char) :=
  match s with
  | c :: r => if c = 'e' ∨ c = 'E' then afterDigits? Char.isDigit (dropSign r) else some (c :: r)
  | [] => some []

/-- Whether a text is a number with a fraction or an exponent. One that is above all doubles is
refused, but not one below. -/
def isFloat (s : List Char) : Bool :=
  let rest := do
    let afterPoint ← afterWhole? (dropSign s) >>= afterFraction?
    afterExponent? afterPoint
  rest = some [] &&
    ((Decimal.readDouble? (dropUnderscores s)).any fun x =>
      Decimal.isFinite x || Decimal.isNegative x)

/-- Whether a text is infinity or no number, with or without a sign. -/
def isSpecialFloat (s : List Char) : Bool :=
  dropSign s = ['i', 'n', 'f'] || dropSign s = ['n', 'a', 'n']

/-! ## Dates and times -/

/-- A number of so many digits, and what follows. -/
def fixedNumber? (count : Nat) (s : List Char) : Option (Nat × List Char) :=
  let digits := s.take count
  if digits.length = count ∧ digits.all Char.isDigit then
    some (Decimal.digitsValue digits, s.drop count)
  else none

/-- What follows a character. -/
def afterChar? (c : Char) : List Char → Option (List Char)
  | d :: r => if c = d then some r else none
  | [] => none

/-- What follows a date. -/
def afterDate? (s : List Char) : Option (List Char) := do
  let (year, s) ← fixedNumber? 4 s
  let s ← afterChar? '-' s
  let (month, s) ← fixedNumber? 2 s
  let s ← afterChar? '-' s
  let (day, s) ← fixedNumber? 2 s
  let _ ← Date.of? year month day
  some s

/-- What follows a time of day, which has seconds and can have a fraction of a second. -/
def afterTime? (s : List Char) : Option (List Char) := do
  let (hour, s) ← fixedNumber? 2 s
  let s ← afterChar? ':' s
  let (minute, s) ← fixedNumber? 2 s
  let s ← afterChar? ':' s
  let (second, s) ← fixedNumber? 2 s
  if hour ≤ 23 ∧ minute ≤ 59 ∧ second ≤ 60 then
    match s with
    | '.' :: c :: r => if c.isDigit then some (r.dropWhile Char.isDigit) else none
    | s => some s
  else none

/-- Whether a text is a distance from the zone UTC, or nothing. -/
def isOffset (s : List Char) : Bool :=
  match s with
  | [] => true
  | ['Z'] => true
  | ['z'] => true
  | sign :: r =>
    (sign = '+' || sign = '-') &&
      ((do
        let (hour, s) ← fixedNumber? 2 r
        let s ← afterChar? ':' s
        let (minute, s) ← fixedNumber? 2 s
        some (hour ≤ 23 && minute ≤ 59 && s.isEmpty)).getD false)

/-- Whether a text is a time, with a distance from UTC if it comes after a date. -/
def isTimeAfterDate (s : List Char) : Bool := (afterTime? s).any isOffset

/-- Whether a text is a date, a time, or a date and a time with a letter between them. -/
def isMoment (s : List Char) : Bool :=
  afterTime? s = some [] ||
    (match afterDate? s with
    | some [] => true
    | some (c :: r) => (c = 'T' || c = 't') && isTimeAfterDate r
    | none => false)

/-! ## Words -/

/-- The characters of numbers, truth values, dates and times. -/
def isWordChar (c : Char) : Bool := c.isAlphanum || c = '+' || c = '-' || c = '_' || c = '.' || c = ':'

/-- Whether a word is a scalar other than a string. -/
def isScalarWord (word : List Char) : Bool :=
  word = ['t', 'r', 'u', 'e'] || word = ['f', 'a', 'l', 's', 'e'] || isInteger word || isFloat word
    || isSpecialFloat word || isMoment word

/-- What follows a time after a date, from which it is parted by a space. -/
def afterSpacedTime? (s : List Char) : Option (List Char) :=
  let time := s.takeWhile isWordChar
  if isTimeAfterDate time then some (s.drop time.length) else none

/-- What follows a scalar other than a string. A space may stand between a date and a time. -/
def afterScalar? (s : List Char) : Option (List Char) :=
  let word := s.takeWhile isWordChar
  let rest := s.drop word.length
  if isScalarWord word then
    match rest with
    | ' ' :: c :: r =>
      if afterDate? word = some [] ∧ c.isDigit then afterSpacedTime? (c :: r) else some rest
    | _ => some rest
  else none

theorem not_isScalarWord_nil : isScalarWord [] = false := by decide +kernel

theorem length_afterSpacedTime? {s r : List Char} (h : afterSpacedTime? s = some r) :
    r.length ≤ s.length := by
  simp only [afterSpacedTime?] at h
  split at h
  next =>
    obtain rfl := Option.some.inj h
    simp
  next => cases h

theorem length_afterScalar? {s r : List Char} (h : afterScalar? s = some r) :
    r.length < s.length := by
  simp only [afterScalar?] at h
  split at h
  next hw =>
    have hpos : 0 < (s.takeWhile isWordChar).length := by
      rw [List.length_pos_iff]
      intro hnil
      simp [hnil, not_isScalarWord_nil] at hw
    have hle : (s.takeWhile isWordChar).length ≤ s.length := (List.takeWhile_sublist _).length_le
    have hdrop : (s.drop (s.takeWhile isWordChar).length).length < s.length := by
      rw [List.length_drop]
      omega
    split at h
    next c t heq =>
      split at h
      next =>
        have := length_afterSpacedTime? h
        rw [heq] at hdrop
        simp only [List.length_cons] at *
        omega
      next =>
        obtain rfl := Option.some.inj h
        exact hdrop
    next =>
      obtain rfl := Option.some.inj h
      exact hdrop
  next => cases h

end LogFilter.Toml
