import LogFilter.Pattern.Bracket
import LogFilter.Pattern.Weight
import LogFilter.Text.Letter

/-!
# Reading patterns

A pattern is read from the left with the groups that are open on a stack. Flags hold from where they
are set to the end of the group.

A text that is no pattern is refused without a reason: a bracket without its partner, a repetition
of nothing, an unknown flag or class, a second group of a name, too much nesting, too large an
automaton. So are references to earlier groups and conditions on the text around, which patterns
cannot express.
-/

namespace LogFilter.Pattern

open Text

/-- A part of a pattern. -/
structure Part where
  pattern : Pattern Atom
  /-- How deeply its text is nested. -/
  depth : Nat
  /-- Whether it is there for the flags that it sets, so that it cannot be repeated. -/
  setsFlags : Bool

namespace Part

/-- A part that contains no others. -/
def leaf (pattern : Pattern Atom) : Part := ⟨pattern, 0, false⟩

/-- Several parts as one, which is a level of its own unless there is only one. -/
def join (whole : List (Pattern Atom) → Pattern Atom) (parts : List Part) : Part :=
  let depth := (parts.map Part.depth).foldl max 0
  ⟨whole (parts.map Part.pattern), if 2 ≤ parts.length then depth + 1 else depth, false⟩

end Part

/-- What was read of a group. -/
structure Branches where
  /-- The alternatives before the last one, from the last to the first. -/
  done : List Part
  /-- The parts of the last alternative, from the last to the first. -/
  parts : List Part

namespace Branches

def empty : Branches := ⟨[], []⟩

def add (part : Part) (b : Branches) : Branches := { b with parts := part :: b.parts }

/-- The parts of the last alternative as one. -/
def last (b : Branches) : Part := .join Pattern.sequenceAll b.parts.reverse

/-- The same with a new alternative begun. -/
def split (b : Branches) : Branches := ⟨b.last :: b.done, []⟩

/-- All alternatives as one part. -/
def whole (b : Branches) : Part := .join Pattern.choiceAll (b.last :: b.done).reverse

/-- The same with the last part repeated. -/
def repeatLast? (min : Nat) (max : Option Nat) (b : Branches) : Option Branches :=
  match b.parts with
  | [] => none
  | part :: rest =>
    if part.setsFlags then none
    else some { b with parts := ⟨.repeated part.pattern min max, part.depth + 1, false⟩ :: rest }

end Branches

/-- A group that is open. -/
structure OpenGroup where
  /-- What was read before it. -/
  outer : Branches
  /-- The flags that hold after it. -/
  outerFlags : Flags
  captures : Bool

/-- What was read so far. -/
structure State where
  flags : Flags
  current : Branches
  groups : List OpenGroup
  /-- The names of groups. -/
  names : List (List Char)

namespace State

def add (part : Part) (st : State) : State := { st with current := st.current.add part }

def start (flags : Flags) : State := ⟨flags, .empty, [], []⟩

/-- Opens a group in which other flags may hold. -/
def openGroup (captures : Bool) (flags : Flags) (st : State) : State :=
  { st with
    flags := flags
    current := .empty
    groups := ⟨st.current, st.flags, captures⟩ :: st.groups }

/-- Closes the innermost group. -/
def closeGroup? (st : State) : Option State :=
  match st.groups with
  | [] => none
  | g :: groups =>
    let inner := st.current.whole
    let pattern := if g.captures then .group inner.pattern else inner.pattern
    some { st with
      flags := g.outerFlags
      current := g.outer.add ⟨pattern, inner.depth + 1, false⟩
      groups := groups }

end State

/-- The flag of a letter, set to a value. -/
def Flags.set? (flags : Flags) (letter : Char) (value : Bool) : Option Flags :=
  match letter with
  | 'i' => some { flags with ignoreCase := value }
  | 'm' => some { flags with multiLine := value }
  | 's' => some { flags with dotAll := value }
  | 'x' => some { flags with verbose := value }
  | 'u' => some { flags with unicode := value }
  | 'R' => some { flags with returns := value }
  | 'U' => some flags
  | _ => none

/-- Flags up to a colon or a closing parenthesis, and which of the two it is. Letters after a hyphen
clear their flags. `seen` are the letters and hyphens before, the last one first. -/
def readFlags (flags : Flags) (seen : List Char) : (s : List Char) → Reading (Flags × Char) s
  | [] => none
  | c :: r =>
    if c = ':' ∨ c = ')' then
      if seen.head? = some '-' ∨ (c = ')' ∧ seen = []) then none
      else some (.first (flags, c))
    else if seen.contains c then none
    else if c = '-' then (readFlags flags (c :: seen) r).map Taken.afterFirst
    else
      match flags.set? c (!seen.contains '-') with
      | none => none
      | some flags => (readFlags flags (c :: seen) r).map Taken.afterFirst

/-- Whether a character can be part of a group's name. -/
def isNameChar (first : Bool) (c : Char) : Bool :=
  if first then c = '_' || isAlphabetic c
  else c = '_' || c = '.' || c = '[' || c = ']' || isAlphanumeric c

/-- The name of a group, up to its closing bracket. -/
def readName (before : List Char) : (s : List Char) → Reading (List Char) s
  | [] => none
  | c :: r =>
    if c = '>' then
      if before.isEmpty then none else some (.first before.reverse)
    else if isNameChar before.isEmpty c then
      (readName (c :: before) r).map Taken.afterFirst
    else none

/-- The rest of a text after a word that it may start with. -/
def afterWord? (word : List Char) (s : List Char) :
    Option (Rest s) :=
  if word.isPrefixOf s then some ⟨s.drop word.length, by simp⟩ else none

/-- What follows an opening parenthesis: a group begins, or flags are set. -/
def readGroup (st : State) (s : List Char) :
    Option (State × Rest s) :=
  let r := st.flags.skip s
  have hr : r.length ≤ s.length := st.flags.length_skip_le s
  if ["?=", "?!", "?<=", "?<!"].any fun word => word.toList.isPrefixOf r then none
  else
    match (afterWord? ['?', 'P', '<'] r <|> afterWord? ['?', '<'] r) with
    | some ⟨t, ht⟩ => do
      let name ← readName [] t
      if st.names.contains name.value then none
      else
        let named := { st with names := name.value :: st.names }
        some (named.openGroup true st.flags, ⟨name.rest, by have := name.shorter; omega⟩)
    | none =>
      match afterWord? ['?'] r with
      | some ⟨t, ht⟩ => do
        let read ← readFlags st.flags [] t
        let next :=
          if read.value.2 = ':' then st.openGroup false read.value.1
          else { st.add ⟨.empty, 0, true⟩ with flags := read.value.1 }
        some (next, ⟨read.rest, by have := read.shorter; omega⟩)
      | none => some (st.openGroup true st.flags, ⟨r, hr⟩)

/-- Decimal digits, after those with the value `before`. -/
def readDigits (flags : Flags) (before : Nat) (s : List Char) : Reading Nat s :=
  match s with
  | [] => none
  | c :: r =>
    if c.isDigit then
      let value := before * 10 + (c.toNat - 0x30)
      have h := flags.length_skip_le r
      match readDigits flags value (flags.skip r) with
      | some taken => some (taken.weaken (Nat.le_succ_of_le h))
      | none => some ⟨value, flags.skip r, Nat.lt_succ_of_le h⟩
    else none
termination_by s.length

/-- A number of 32 bits with blanks around it. -/
def readDecimal (flags : Flags) (s : List Char) : Reading Nat s := do
  let digits ← readDigits flags 0 (s.dropWhile isBlank)
  if digits.value < 0x100000000 then
    let taken := digits.leave (digits.rest.dropWhile isBlank) (length_dropWhile_le _ _)
    some (taken.weaken (length_dropWhile_le _ _))
  else none

/-- What is left after a reading and one character that counts. -/
theorem length_afterReading {α : Type} {flags : Flags} {s r : List Char} {c : Char}
    (taken : Taken α (flags.skip s)) (h : taken.rest = c :: r) : r.length < s.length := by
  have hs := flags.length_skip_le s
  have ht := taken.shorter
  rw [h, List.length_cons] at ht
  omega

/-- How often a part is repeated: a number, or two ends of which the second can be missing, up to
the closing brace. -/
def readCounts (flags : Flags) (s : List Char) : Reading (Nat × Option Nat) s := do
  let first ← readDecimal flags (flags.skip s)
  match h : first.rest with
  | '\x7d' :: r => some ⟨(first.value, some first.value), r, length_afterReading first h⟩
  | ',' :: r =>
    have hr : r.length < s.length := length_afterReading first h
    match h' : flags.skip r with
    | '\x7d' :: t =>
      some ⟨(first.value, none), t, Nat.lt_trans (flags.length_of_skip h') hr⟩
    | _ => do
      let last ← readDecimal flags (flags.skip r)
      match h'' : last.rest with
      | '\x7d' :: u =>
        if first.value ≤ last.value then
          some ⟨(first.value, some last.value), u, Nat.lt_trans (length_afterReading last h'') hr⟩
        else none
      | _ => none
  | _ => none

/-- A text without a question mark at its start, which says that a repetition prefers fewer times.
That does not change what is found. -/
def skipLazy (s : List Char) : Rest s :=
  match s with
  | '?' :: _ => .tail
  | s => .all s

/-- The set of a dot: all characters, or all but those that end lines. -/
def Flags.dot? (flags : Flags) : Option CharSet :=
  if flags.unicode then
    if flags.dotAll then some .all
    else if flags.returns then some (CharSet.complement ⟨[(0xA, 0xA), (0xD, 0xD)]⟩)
    else some (CharSet.complement ⟨[(0xA, 0xA)]⟩)
  else none

/-- The pattern of a primitive. -/
def Primitive.pattern? (flags : Flags) : Primitive → Option (Pattern Atom)
  | .literal c asByte => (flags.literal? c asByte).map fun set => .atom (.set set)
  | .set s => some (.atom (.set s))
  | .anchor a => some (.atom (.anchor a))

/-- Reads one part or sign, at a character that counts. -/
def readPart (st : State) (s : List Char) : Option (State × ShorterRest s) :=
  match s with
  | [] => none
  | c :: r =>
    let here (st : State) : Option (State × ShorterRest (c :: r)) := some (st, (Rest.all r).afterFirst)
    let leaf (pattern : Pattern Atom) := here (st.add (.leaf pattern))
    let anchor (a : Anchor) := leaf (.atom (.anchor a))
    let repeated (min : Nat) (max : Option Nat) (t : Rest r) :
        Option (State × ShorterRest (c :: r)) := do
      let current ← st.current.repeatLast? min max
      some ({ st with current := current }, ((skipLazy t.1).within t.2).afterFirst)
    if c = '(' then do
      let (st, rest) ← readGroup st r
      some (st, rest.afterFirst)
    else if c = ')' then st.closeGroup? >>= here
    else if c = '|' then here { st with current := st.current.split }
    else if c = '[' then do
      let class_ ← readBracket st.flags r
      some (st.add ⟨.atom (.set class_.value.set), class_.value.depth, false⟩,
        class_.afterFirst.left)
    else if c = '?' then repeated 0 (some 1) (.all r)
    else if c = '*' then repeated 0 none (.all r)
    else if c = '+' then repeated 1 none (.all r)
    else if c = '\x7b' then do
      let counts ← readCounts st.flags r
      let rest : Rest counts.rest := ⟨st.flags.skip counts.rest, st.flags.length_skip_le _⟩
      repeated counts.value.1 counts.value.2 (rest.within (Nat.le_of_lt counts.shorter))
    else if c = '.' then st.flags.dot? >>= fun set => leaf (.atom (.set set))
    else if c = '^' then
      anchor (if st.flags.multiLine then .lineStart st.flags.returns else .textStart)
    else if c = '$' then
      anchor (if st.flags.multiLine then .lineEnd st.flags.returns else .textEnd)
    else if c = '\\' then do
      let escape ← readEscape st.flags r
      let pattern ← escape.value.pattern? st.flags
      some (st.add (.leaf pattern), escape.afterFirst.left)
    else (Primitive.literal c false).pattern? st.flags >>= leaf

/-- Reads all parts of a text. -/
def readParts (st : State) (s : List Char) : Option State :=
  match _h : st.flags.skip s with
  | [] => some st
  | c :: r =>
    match readPart st (c :: r) with
    | none => none
    | some (next, ⟨rest, _hr⟩) => readParts next rest
termination_by s.length
decreasing_by
  have := st.flags.length_skip_le s
  rw [_h] at this
  omega

/-- How deeply a pattern may be nested. -/
def depthLimit : Nat := 250

/-- The pattern that a text is, under flags. -/
def read? (flags : Flags) (s : List Char) : Option (Pattern Atom) := do
  let st ← readParts (.start flags) s
  let whole := st.current.whole
  if st.groups.isEmpty && whole.depth ≤ depthLimit && whole.pattern.weight ≤ weightLimit then
    some whole.pattern
  else none

end LogFilter.Pattern
