import LogFilter.Pattern.Escape

/-!
# Bracketed classes

A class in brackets lists characters, ranges, escapes, named ASCII classes and classes in brackets
of their own. Lists can be combined by three operators, which bind more loosely than listing, all
alike, and from the left.

## Termination

Every member and every operator takes at least one character, and a class in brackets is read from
what follows its opening bracket.
-/

namespace LogFilter.Pattern

open Text

/-- A set of characters and how deeply its text is nested. -/
structure Nested where
  set : CharSet
  depth : Nat

/-- The members of a class that were read so far. -/
structure Members where
  set : CharSet
  count : Nat
  /-- How deeply the deepest of them is nested. -/
  depth : Nat

namespace Members

def none : Members := ⟨.empty, 0, 0⟩

def add (members : Members) (nested : Nested) : Members :=
  ⟨members.set.union nested.set, members.count + 1, max members.depth nested.depth⟩

/-- The members as one set. Two or more are a level of their own. -/
def nested (members : Members) : Nested :=
  ⟨members.set, if 2 ≤ members.count then members.depth + 1 else members.depth⟩

end Members

/-- The operators between lists of members. -/
inductive SetOperator
  | inter
  | diff
  | symmDiff
  deriving DecidableEq, Repr

namespace SetOperator

def apply : SetOperator → CharSet → CharSet → CharSet
  | inter => CharSet.inter
  | diff => CharSet.diff
  | symmDiff => CharSet.symmDiff

/-- An operator at the start of a text, which is a character written twice, and what follows. -/
def read? (s : List Char) : Option (SetOperator × ShorterRest s) :=
  match s with
  | '&' :: '&' :: r => some (inter, ⟨r, Nat.lt_succ_of_lt (Nat.lt_succ_self _)⟩)
  | '-' :: '-' :: r => some (diff, ⟨r, Nat.lt_succ_of_lt (Nat.lt_succ_self _)⟩)
  | '~' :: '~' :: r => some (symmDiff, ⟨r, Nat.lt_succ_of_lt (Nat.lt_succ_self _)⟩)
  | _ => none

end SetOperator

/-- An operand, combined with what an operator was read after. -/
def combine (flags : Flags) (left : Option (SetOperator × Nested)) (operand : Nested) : Nested :=
  let fold (set : CharSet) := if flags.ignoreCase then set.fold flags.unicode else set
  match left with
  | none => operand
  | some (operator, before) =>
    ⟨operator.apply (fold before.set) (fold operand.set), max before.depth operand.depth + 1⟩

theorem length_afterName {r text name rest : List Char} (ht : text.length ≤ r.length)
    (h : breakOn [':'] text = some (name, ']' :: rest)) : rest.length < (':' :: r).length := by
  have := congrArg List.length (eq_of_breakOn h)
  simp only [List.length_append, List.length_cons, List.length_nil] at *
  omega

/-- A named ASCII class without its first bracket, and whether it stands for all other characters.
Text of another form is no such class but can be a class in brackets. -/
def namedClass? (s : List Char) : Option (CharSet × Bool × ShorterRest s) :=
  match s with
  | ':' :: r =>
    let (negated, ⟨nameText, hn⟩) : Bool × Rest r :=
      match r with
      | '^' :: _ => (true, .tail)
      | t => (false, .all t)
    match h : breakOn [':'] nameText with
    | some (name, ']' :: rest) =>
      (CharSet.asciiClass? (String.ofList name)).map (·, negated, ⟨rest, length_afterName hn h⟩)
    | _ => none
  | _ => none

/-- The character that decides whether a hyphen before it makes a range: the first that is no blank
if blanks do not count, where one hash sign is passed over too. -/
def afterHyphen? (flags : Flags) (s : List Char) : Option Char :=
  if flags.verbose then
    match s.dropWhile isBlank with
    | '#' :: r => (r.dropWhile isBlank).head?
    | r => r.head?
  else s.head?

/-- An escape or a character. -/
def readMember (flags : Flags) (s : List Char) : Reading Primitive s :=
  match s with
  | [] => none
  | '\\' :: r => (readEscape flags r).map Taken.afterFirst
  | c :: _ => some (.first (.literal c false))

/-- Whether a character can be a member. Without Unicode only ASCII can. -/
def Flags.admits (flags : Flags) (c : Char) : Bool := flags.unicode || c.toNat < 0x80

/-- The set of one member. -/
def memberSet? (flags : Flags) : Primitive → Option CharSet
  | .literal c _ => if flags.admits c then some (.singleton c) else none
  | .set set => some set
  | .anchor _ => none

/-- The set of a range between two members. -/
def rangeSet? (flags : Flags) (first last : Primitive) : Option CharSet :=
  match first, last with
  | .literal a _, .literal b _ =>
    if flags.admits a && flags.admits b && a.toNat ≤ b.toNat then some ⟨[(a.toNat, b.toNat)]⟩
    else none
  | _, _ => none

/-- A member or a range of two. -/
def readRange (flags : Flags) (s : List Char) : Reading CharSet s := do
  let first ← readMember flags s
  have hs := flags.length_skip_le first.rest
  match h : flags.skip first.rest with
  | [] => none
  | '-' :: r =>
    let next := afterHyphen? flags r
    if next = some ']' ∨ next = some '-' then
      let set ← memberSet? flags first.value
      some ((first.map fun _ => set).leave ('-' :: r) (h ▸ hs))
    else
      let last ← readMember flags (flags.skip r)
      let set ← rangeSet? flags first.value last.value
      some ⟨set, last.rest, by
        have h1 := flags.length_skip_le r
        have h2 := last.shorter
        have h3 := first.shorter
        rw [h] at hs
        simp only [List.length_cons] at hs
        omega⟩
  | c :: r =>
    let set ← memberSet? flags first.value
    some ((first.map fun _ => set).leave (c :: r) (h ▸ hs))

/-- Hyphens at the start of a class, which are members. -/
def leadingHyphens (flags : Flags) (members : Members) (s : List Char) :
    Members × Rest s :=
  match h : flags.skip s with
  | '-' :: r =>
    have hs : r.length < s.length := flags.length_of_skip h
    let (members, ⟨rest, hr⟩) := leadingHyphens flags (members.add ⟨.singleton '-', 0⟩) r
    (members, ⟨rest, Nat.le_trans hr (Nat.le_of_lt hs)⟩)
  | _ => (members, .all s)
termination_by s.length

/-- The sign that a class stands for all other characters, and the members that can only be written
at the start: hyphens, or else a closing bracket. -/
def readOpening (flags : Flags) (s : List Char) :
    Bool × Members × Rest s :=
  let (negated, ⟨r, hr⟩) : Bool × Rest s :=
    match h : flags.skip s with
    | '^' :: r => (true, ⟨r, Nat.le_of_lt (flags.length_of_skip h)⟩)
    | _ => (false, .all s)
  let (members, ⟨t, ht⟩) := leadingHyphens flags .none r
  match h : flags.skip t with
  | ']' :: rest =>
    if members.count = 0 then
      have hrest := Nat.le_of_lt (flags.length_of_skip h)
      (negated, members.add ⟨.singleton ']', 0⟩, ⟨rest, Nat.le_trans hrest (Nat.le_trans ht hr)⟩)
    else (negated, members, ⟨t, Nat.le_trans ht hr⟩)
  | _ => (negated, members, ⟨t, Nat.le_trans ht hr⟩)

mutual

/-- A class in brackets, without its first bracket. -/
def readBracket (flags : Flags) (s : List Char) : Reading Nested s :=
  let (negated, members, ⟨r, h⟩) := readOpening flags s
  (readMembers flags negated none members r).map (Taken.weaken h)
termination_by 2 * s.length + 1

/-- The rest of a class after some members, up to its last bracket. -/
def readMembers (flags : Flags) (negated : Bool) (left : Option (SetOperator × Nested))
    (members : Members) (s : List Char) : Reading Nested s :=
  match h : flags.skip s with
  | [] => none
  | ']' :: r => do
    let whole := combine flags left members.nested
    let set ← flags.class? negated whole.set
    some ⟨⟨set, whole.depth + 1⟩, r, flags.length_of_skip h⟩
  | '[' :: r =>
    have hr : r.length < s.length := flags.length_of_skip h
    match namedClass? r with
    | some (set, others, ⟨rest, hrest⟩) => do
      let set ← flags.class? others set
      let all ← readMembers flags negated left (members.add ⟨set, 0⟩) rest
      some (all.weaken (by omega))
    | none => do
      let inner ← readBracket flags r
      have hi := inner.shorter
      let all ← readMembers flags negated left (members.add inner.value) inner.rest
      some (all.weaken (by omega))
  | c :: r =>
    have hr : (c :: r).length ≤ s.length := flags.length_of_skip h
    match SetOperator.read? (c :: r) with
    | some (operator, ⟨rest, hrest⟩) => do
      let left := some (operator, combine flags left members.nested)
      let all ← readMembers flags negated left .none rest
      some (all.weaken (by omega))
    | none => do
      let range ← readRange flags (c :: r)
      have hrange := range.shorter
      let all ← readMembers flags negated left (members.add ⟨range.value, 0⟩) range.rest
      some (all.weaken (by omega))
termination_by 2 * s.length

end

end LogFilter.Pattern
