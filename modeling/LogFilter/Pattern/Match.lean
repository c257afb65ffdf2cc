import LogFilter.Pattern.Basic

/-!
# Finding patterns in texts

A pattern is found in a text if some part of the text is one that it describes. Only whether that is
so matters, not which part it is, so the question is answered for all parts at once: a pattern takes
a set of positions, from where it may start, to the set of positions where it may end.

A set of positions is a number whose bit `i` stands for the position after `i` characters.

## Repetition

What is reached in any number of steps is found by taking steps from what is new until nothing is.
A text of `n` characters has `n + 1` positions, so that many steps are enough. For the same reason a
least number of steps above `n + 1` counts as `n + 1`: so many steps cannot all take a character,
and a step that takes none can be repeated or left out.
-/

namespace LogFilter

/-- A set of positions. -/
abbrev Positions := Nat

/-- What an atom does to positions of one text. -/
inductive Pattern.Step
  /-- Stays at those positions that are in the set. -/
  | stay (allowed : Positions)
  /-- Goes past the character at those positions that are in the set. -/
  | pass (allowed : Positions)
  deriving DecidableEq, Repr

def Pattern.Step.apply (step : Pattern.Step) (from_ : Positions) : Positions :=
  match step with
  | stay allowed => from_ &&& allowed
  | pass allowed => (from_ &&& allowed) <<< 1

/-- The positions whose characters satisfy a predicate. -/
def positionsWhere (p : Char → Bool) : List Char → Positions
  | [] => 0
  | c :: r => (if p c then 1 else 0) + 2 * positionsWhere p r

/-- The positions at which a predicate of the characters on both sides holds. -/
def positionsBetween (p : Option Char → Option Char → Bool) (before : Option Char) :
    List Char → Positions
  | [] => if p before none then 1 else 0
  | c :: r => (if p before (some c) then 1 else 0) + 2 * positionsBetween p (some c) r

/-- What an atom does in a text. -/
def Atom.step (text : List Char) : Atom → Pattern.Step
  | set s => .pass (positionsWhere s.holds text)
  | anchor a => .stay (positionsBetween (fun before after => a.holds before after) none text)

/-- What is reached by exactly `count` steps. -/
def afterSteps (step : Positions → Positions) : (count : Nat) → Positions → Positions
  | 0, from_ => from_
  | count + 1, from_ => if from_ = 0 then 0 else afterSteps step count (step from_)

/-- What is reached by at most `count` steps from the positions `recent`, and what was reached
before. -/
def withinSteps (step : Positions → Positions) : (count : Nat) → (seen recent : Positions) → Positions
  | 0, seen, _ => seen
  | count + 1, seen, recent =>
    let reached := step recent ||| seen
    if reached = seen then seen else withinSteps step count reached (reached ^^^ seen)

namespace Pattern

/-- Where a pattern may end if it starts at one of some positions of a text, of which there are
`bound`. -/
def reach (bound : Nat) : Pattern Step → Positions → Positions
  | empty, from_ => from_
  | atom step, from_ => step.apply from_
  | sequence p q, from_ => q.reach bound (p.reach bound from_)
  | choice p q, from_ => p.reach bound from_ ||| q.reach bound from_
  | group p, from_ => p.reach bound from_
  | repeated p min max, from_ =>
    let least := afterSteps (fun s => p.reach bound s) (Nat.min min bound) from_
    let more := match max with
      | some max => Nat.min (max - min) bound
      | none => bound
    withinSteps (fun s => p.reach bound s) more least least

/-- Whether a pattern is found in a text. -/
def foundIn (p : Pattern Atom) (text : List Char) : Bool :=
  let bound := text.length + 1
  (p.map (Atom.step text)).reach bound (Nat.pow 2 bound - 1) != 0

end Pattern

end LogFilter
