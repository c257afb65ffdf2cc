import LogFilter.Pattern.Property
import LogFilter.Pattern.Basic
import LogFilter.Text.Blank
import LogFilter.Text.Hex
import LogFilter.Text.Taken

/-!
# Escapes in patterns

What a backslash and the characters after it stand for. The flags that hold at the place decide
about case, about Unicode, and whether blanks between the characters count.

A reader answers `none` for text that is no part of a pattern. Why it is none does not matter.
-/

namespace LogFilter.Pattern

open Text

/-- The flags that hold at a place in a pattern. -/
structure Flags where
  ignoreCase : Bool
  /-- Whether line ends are looked for, and not only ends of the text. -/
  multiLine : Bool
  /-- Whether a dot stands for line feeds too. -/
  dotAll : Bool
  /-- Whether blanks and comments are left out. -/
  verbose : Bool
  unicode : Bool
  /-- Whether carriage returns end lines. -/
  returns : Bool
  deriving DecidableEq, Repr

/-- A value read from the start of a pattern's text, and the rest. -/
abbrev Reading (α : Type) (s : List Char) := Option (Taken α s)

/-- A text from the first character on that is neither a blank nor in a comment. -/
def skipComments (inComment : Bool) : List Char → List Char
  | [] => []
  | c :: r =>
    if inComment then skipComments (c ≠ '\n') r
    else if isBlank c then skipComments false r
    else if c = '#' then skipComments true r
    else c :: r

theorem length_skipComments_le (inComment : Bool) (s : List Char) :
    (skipComments inComment s).length ≤ s.length := by
  induction s generalizing inComment with
  | nil => simp [skipComments]
  | cons c r ih =>
    simp only [skipComments]
    split
    next => exact Nat.le_succ_of_le (ih _)
    next =>
      split
      next => exact Nat.le_succ_of_le (ih _)
      next =>
        split
        next => exact Nat.le_succ_of_le (ih _)
        next => exact Nat.le_refl _

namespace Flags

/-- A text without what does not count at its start. -/
def skip (flags : Flags) (s : List Char) : List Char :=
  if flags.verbose then skipComments false s else s

theorem length_skip_le (flags : Flags) (s : List Char) : (flags.skip s).length ≤ s.length := by
  unfold skip
  split
  · exact length_skipComments_le _ s
  · exact Nat.le_refl _

theorem length_of_skip (flags : Flags) {s r : List Char} {c : Char} (h : flags.skip s = c :: r) :
    r.length < s.length := by
  have := flags.length_skip_le s
  rw [h] at this
  exact this

/-- The next character that counts. -/
def next (flags : Flags) (s : List Char) : Reading Char s :=
  match h : flags.skip s with
  | [] => none
  | c :: r => some ⟨c, r, flags.length_of_skip h⟩

end Flags

/-- Characters up to a closing brace, after those of `before` in reverse order. -/
def readBraced (flags : Flags) (before : List Char) (s : List Char) : Reading (List Char) s :=
  match flags.next s with
  | none => none
  | some ⟨c, r, h⟩ =>
    if c = '\x7d' then some ⟨before.reverse, r, h⟩
    else (readBraced flags (c :: before) r).map (Taken.later h)
termination_by s.length

/-- So many characters and one more, after those of `before` in reverse order. -/
def readMany (flags : Flags) (before : List Char) (more : Nat) (s : List Char) :
    Reading (List Char) s :=
  match flags.next s with
  | none => none
  | some ⟨c, r, h⟩ =>
    match more with
    | 0 => some ⟨(c :: before).reverse, r, h⟩
    | more + 1 => (readMany flags (c :: before) more r).map (Taken.later h)

/-- What an escape or a single character stands for. -/
inductive Primitive
  /-- A character, and whether it was given as a byte of two digits. -/
  | literal (c : Char) (asByte : Bool)
  | set (s : CharSet)
  | anchor (a : Anchor)

/-- The character of a code point in hexadecimal digits: in braces, or else `count` digits. -/
def readCodePoint (flags : Flags) (count : Nat) (s : List Char) : Reading Primitive s :=
  match flags.next s with
  | none => none
  | some ⟨'\x7b', r, h⟩ => do
    let digits ← readBraced flags [] r
    let c ← hexValue? digits.value >>= charOf?
    some ((digits.map fun _ => .literal c false).later h)
  | some _ => do
    let digits ← readMany flags [] (count - 1) s
    let c ← hexValue? digits.value >>= charOf?
    some (digits.map fun _ => .literal c (count = 2))

namespace Flags

/-- The set of one character, in all cases if case does not count. Without Unicode a byte is no
character unless it is ASCII, and only ASCII has cases. -/
def literal? (flags : Flags) (c : Char) (asByte : Bool) : Option CharSet :=
  let set := CharSet.singleton c
  if flags.unicode || c.toNat < 0x80 then
    some (if flags.ignoreCase then set.fold flags.unicode else set)
  else if asByte || flags.ignoreCase then none
  else some set

/-- A class, closed under case if case does not count, or all characters but those. Without Unicode
the result must be ASCII. -/
def class? (flags : Flags) (negated : Bool) (set : CharSet) : Option CharSet :=
  let folded := if flags.ignoreCase then set.fold flags.unicode else set
  let result := if negated then folded.complement else folded
  if flags.unicode || result.isAscii then some result else none

/-- A class that has all cases already, or all characters but those of the class. -/
def plainClass? (flags : Flags) (negated : Bool) (set : CharSet) : Option CharSet :=
  { flags with ignoreCase := false }.class? negated set

end Flags

/-- A class by name: one letter, or text in braces. -/
def readProperty (flags : Flags) (negated : Bool) (s : List Char) : Reading Primitive s :=
  if flags.unicode then
    match flags.next s with
    | none => none
    | some ⟨'\x7b', r, h⟩ => do
      let name ← readBraced flags [] r
      let (set, others) ← CharSet.ofName? name.value
      let set ← flags.class? (negated != others) set
      some ((name.map fun _ => .set set).later h)
    | some letter =>
      if letter.value = '\\' then none
      else do
        let set ← CharSet.named? [letter.value]
        let set ← flags.class? negated set
        some (letter.map fun _ => .set set)
  else none

/-- The edge of words of a name. -/
def edgeOfName? (name : String) : Option WordEdge :=
  match name with
  | "start" => some .wordStart
  | "end" => some .wordEnd
  | "start-half" => some .halfStart
  | "end-half" => some .halfEnd
  | _ => none

/-- Whether a character can be part of the name of an edge. -/
def isEdgeChar (c : Char) : Bool := c.isAlpha || c = '-'

/-- What follows the letter for a boundary of words: the name of an edge in braces, or anything
else. -/
def readBoundary (flags : Flags) (s : List Char) :
    Option (WordEdge × Rest s) :=
  match s with
  | '\x7b' :: r =>
    match flags.next r with
    | none => none
    | some ⟨c, _, _⟩ =>
      if isEdgeChar c then
        match readBraced flags [] r with
        | none => none
        | some ⟨name, rest, h⟩ =>
          if name.all isEdgeChar then
            (edgeOfName? (String.ofList name)).map (·, ⟨rest, Nat.le_of_lt (Nat.lt_succ_of_lt h)⟩)
          else none
      else some (.boundary, Rest.all ('\x7b' :: r))
  | s => some (.boundary, .all s)

/-- Whether a backslash before a character makes it stand for itself: all of ASCII but letters,
digits and angle brackets. -/
def isEscapable (c : Char) : Bool :=
  c.toNat < 0x80 && !c.isAlphanum && c ≠ '<' && c ≠ '>'

/-- What a letter or sign stands for after a backslash, if nothing more belongs to it. -/
def Flags.letter? (flags : Flags) (c : Char) : Option Primitive :=
  let class_ (negated : Bool) (set : Bool → CharSet) : Option Primitive :=
    (flags.plainClass? negated (set flags.unicode)).map Primitive.set
  let word (edge : WordEdge) : Option Primitive := some (.anchor (.word edge flags.unicode))
  match c with
  | 'd' => class_ false CharSet.digits
  | 'D' => class_ true CharSet.digits
  | 's' => class_ false CharSet.blanks
  | 'S' => class_ true CharSet.blanks
  | 'w' => class_ false CharSet.words
  | 'W' => class_ true CharSet.words
  | 'a' => some (.literal '\x07' false)
  | 'f' => some (.literal '\x0c' false)
  | 't' => some (.literal '\t' false)
  | 'n' => some (.literal '\n' false)
  | 'r' => some (.literal '\r' false)
  | 'v' => some (.literal '\x0b' false)
  | 'A' => some (.anchor .textStart)
  | 'z' => some (.anchor .textEnd)
  | 'B' => word .noBoundary
  | '<' => word .wordStart
  | '>' => word .wordEnd
  | c => if isEscapable c then some (.literal c false) else none

/-- The primitive that the text after a backslash stands for. -/
def readEscape (flags : Flags) (s : List Char) : Reading Primitive s :=
  match s with
  | [] => none
  | c :: r =>
    let later (reading : Reading Primitive r) : Reading Primitive (c :: r) :=
      reading.map Taken.afterFirst
    if c = 'x' then later (readCodePoint flags 2 r)
    else if c = 'u' then later (readCodePoint flags 4 r)
    else if c = 'U' then later (readCodePoint flags 8 r)
    else if c = 'p' ∨ c = 'P' then later (readProperty flags (c = 'P') r)
    else if c = 'b' then do
      let (edge, rest) ← readBoundary flags r
      some (.of (.anchor (.word edge flags.unicode)) rest.afterFirst)
    else (flags.letter? c).map Taken.first

end LogFilter.Pattern
