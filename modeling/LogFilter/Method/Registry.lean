import LogFilter.Method.Basic
import LogFilter.Text.Split

/-!
# Registries of methods

A registry keeps methods under names in any ASCII case. A name has one method for each fixed number
of arguments and one more for a variable number. A call gets the method of its number of arguments,
else the variable one if that accepts the number.

The error for other calls tells the accepted numbers. To find them, one is added to words of 64
bits, with a check: where the sum is no word the program ends, and nothing is answered. That is an
outcome of its own, `ResolveError.panic`.
-/

namespace LogFilter

/-- Why a call cannot be resolved. -/
inductive ResolveError
  | unknownMethod (name : String)
  /-- The accepted numbers are one interval, and the number is outside. -/
  | arityMismatch (name : String) (min max actual : Nat)
  /-- The accepted numbers, in words, are no single interval. -/
  | unsupportedArity (name accepted : String) (actual : Nat)
  /-- The resolver refuses, for a reason of its own. -/
  | binding (name reason : String)
  /-- No answer: a sum was no word, which ends the program and with it all that asked. -/
  | panic
  deriving DecidableEq, Repr

def ResolveError.message : ResolveError → String
  | unknownMethod name => "Unknown condition method '" ++ name ++ "'"
  | arityMismatch name min max actual =>
    "Condition method '" ++ name ++ "' requires between " ++ toString min ++ " and "
      ++ toString max ++ " parameters, but passed " ++ toString actual ++ "."
  | unsupportedArity name accepted actual =>
    "Condition method '" ++ name ++ "' accepts " ++ accepted ++ " parameters, but passed "
      ++ toString actual ++ "."
  | binding name reason => "Condition method '" ++ name ++ "' cannot be bound: " ++ reason
  | panic => "attempt to add with overflow"

/-- Finds the method for a name and a number of arguments; `none` says that there is no such name. -/
abbrev Resolver := String → Nat → Except ResolveError (Option Method)

/-- The methods of one name. -/
structure Overloads where
  exact : Fin 4 → Option Method
  variadic : Option Method

namespace Overloads

def empty : Overloads := ⟨fun _ => none, none⟩

/-- The overloads with one more method, in place of an earlier one for the same numbers. -/
def insert (method : Method) (o : Overloads) : Overloads :=
  match method.arity with
  | .exact count => { o with exact := fun i => if i = count then some method else o.exact i }
  | .between _ _ => { o with variadic := some method }

/-- The method for a number of arguments. -/
def find? (o : Overloads) (count : Nat) : Option Method :=
  match if h : count < 4 then o.exact ⟨count, h⟩ else none with
  | some method => some method
  | none => o.variadic.filter fun method => method.arity.accepts count

/-- Numbers of arguments are words of 64 bits, and so is the end of an interval plus one. -/
def wordSize : Nat := 0x10000000000000000

/-- The number after the end of an interval, which the last word does not have. -/
def next? (last : Nat) : Option Nat := if last + 1 < wordSize then some (last + 1) else none

/-- The intervals of single methods, in increasing order. -/
def intervals (o : Overloads) : List (Nat × Nat) :=
  let exacts := (List.finRange 4).filterMap fun i => (o.exact i).map fun _ => (i.val, i.val)
  let all := exacts ++ (o.variadic.map fun method => method.arity.bounds).toList
  all.mergeSort fun a b => a.1 < b.1 || (a.1 == b.1 && a.2 ≤ b.2)

/-- Intervals in which those that meet or touch have been joined, the last one first. -/
def joinInto (joined : List (Nat × Nat)) (interval : Nat × Nat) : Option (List (Nat × Nat)) :=
  match joined with
  | (first, last) :: rest =>
    (next? last).map fun next =>
      if interval.1 ≤ next then (first, max last interval.2) :: rest else interval :: joined
  | [] => some [interval]

/-- The accepted numbers as intervals in increasing order, each apart from the next; `none` if the
number after the last word is asked for. -/
def accepted? (o : Overloads) : Option (List (Nat × Nat)) :=
  (o.intervals.foldlM joinInto []).map List.reverse

/-- An interval in words: its ends, or one number. -/
def intervalText (interval : Nat × Nat) : String :=
  if interval.1 = interval.2 then toString interval.1
  else toString interval.1 ++ "-" ++ toString interval.2

/-- The error for a number that no method accepts. -/
def arityError (o : Overloads) (name : String) (actual : Nat) : ResolveError :=
  match o.accepted? with
  | none => .panic
  | some [(min, max)] => .arityMismatch name min max actual
  | some intervals =>
    .unsupportedArity name (", ".intercalate (intervals.map intervalText)) actual

end Overloads

/-- Methods by name. Names are in lower case and in increasing order. -/
structure Registry where
  entries : List (String × Overloads)

namespace Registry

def empty : Registry := ⟨[]⟩

/-- The form of a name under which methods are kept. -/
def key (name : String) : String := String.ofList (name.toList.map Char.toLower)

/-- The overloads of a key. -/
def lookup? (key : String) : List (String × Overloads) → Option Overloads
  | [] => none
  | (k, o) :: rest => if k = key then some o else lookup? key rest

/-- The entries with a method added to the overloads of a key. -/
def insertEntry (key : String) (method : Method) :
    List (String × Overloads) → List (String × Overloads)
  | [] => [(key, Overloads.empty.insert method)]
  | (k, o) :: rest =>
    match compare key k with
    | .lt => (key, Overloads.empty.insert method) :: (k, o) :: rest
    | .eq => (k, o.insert method) :: rest
    | .gt => (k, o) :: insertEntry key method rest

/-- The registry with one more method, in place of an earlier one of the same name and numbers. -/
def register (registry : Registry) (name : String) (method : Method) : Registry :=
  ⟨insertEntry (key name) method registry.entries⟩

/-- Whether there is a method of a name. -/
def contains (registry : Registry) (name : String) : Bool :=
  (lookup? (key name) registry.entries).isSome

/-- All names in lower case and in order. -/
def names (registry : Registry) : List String := registry.entries.map Prod.fst

/-- The method for a name and a number of arguments. -/
def resolve (registry : Registry) : Resolver := fun name count =>
  match lookup? (key name) registry.entries with
  | none => .ok none
  | some o =>
    match o.find? count with
    | some method => .ok (some method)
    | none => .error (o.arityError name count)

end Registry

end LogFilter
