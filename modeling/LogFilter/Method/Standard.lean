import LogFilter.Method.Registry
import LogFilter.Pattern.Match
import LogFilter.Pattern.Options
import LogFilter.Text.Lowercase
import LogFilter.Value.Convert

/-!
# The standard methods

The methods that every condition can call. They work on the texts of their arguments, so null is an
empty text; only `equals` looks at the values themselves.
-/

namespace LogFilter

/-- What a text method decides about two texts. -/
abbrev TextRelation := List Char → List Char → Bool

namespace TextRelation

def equal : TextRelation := fun a b => a == b

def contains : TextRelation := fun a b => Text.occursIn b a

def startsWith : TextRelation := fun a b => b.isPrefixOf a

def endsWith : TextRelation := fun a b => b.isSuffixOf a

/-- Decides about the texts as they are, or about their lower case. -/
def holds (relation : TextRelation) (ignoreCase : Bool) (a b : List Char) : Bool :=
  if ignoreCase then relation (Text.lower a) (Text.lower b) else relation a b

end TextRelation

/-- The truth value that a flag is or can be converted to. -/
def Value.flag (v : Value) : Except MethodError Bool :=
  match (v.convert? .bool).bind Value.asBool? with
  | some b => .ok b
  | none => .error (.notAFlag v.text)

namespace Method

/-- A method on a fixed number of arguments. Every such method is given the event. -/
def ofExact (count : Fin 4) (run : Option Event → List Value → Except MethodError Value) :
    Method where
  arity := .exact count
  usesEvent := true
  run := run

/-- A method on two texts and a flag that says whether case is ignored. -/
def ofRelation (ignoreCase : Bool) (relation : TextRelation) : Method where
  arity := .between 2 3
  usesEvent := false
  run := fun _ arguments =>
    match arguments with
    | [a, b] => .ok (.bool (relation.holds ignoreCase a.text.toList b.text.toList))
    | [a, b, flag] =>
      flag.flag.map fun ignoreCase =>
        .bool (relation.holds ignoreCase a.text.toList b.text.toList)
    | _ => .error (.argumentCount 2 3 arguments.length)

/-- Whether two values are the same, without any conversion. -/
def equals : Method := ofExact 2 fun _ arguments =>
  match arguments with
  | [a, b] => .ok (.bool (a.same b))
  | _ => .error (.argumentCount 2 2 arguments.length)

/-- How many characters a text has. -/
def length : Method := ofExact 1 fun _ arguments =>
  match arguments with
  | [a] => .ok (Value.ofNat a.text.toList.length)
  | _ => .error (.argumentCount 1 1 arguments.length)

/-- Whether a pattern, read with options, is found in a text. Wrong options are reported before a
wrong pattern. -/
def findPattern (text pattern options : String) : Except MethodError Bool :=
  match Pattern.readOptions options.toList with
  | .error word => .error (.unknownOption word)
  | .ok flags =>
    match Pattern.read? flags pattern.toList with
    | none => .error (.invalidPattern pattern)
    | some p => .ok (p.foundIn text.toList)

/-- Whether a pattern, which may be followed by options, is found in a text. -/
def patternMatches : Method where
  arity := .between 2 3
  usesEvent := false
  run := fun _ arguments =>
    match arguments with
    | [text, pattern] => (findPattern text.text pattern.text "").map Value.bool
    | [text, pattern, options] =>
      (findPattern text.text pattern.text options.text).map Value.bool
    | _ => .error (.argumentCount 2 3 arguments.length)

/-- The standard methods and their names. -/
def standard : List (String × Method) :=
  [("equals", equals),
    ("strequals", ofRelation false TextRelation.equal),
    ("contains", ofRelation true TextRelation.contains),
    ("starts-with", ofRelation true TextRelation.startsWith),
    ("ends-with", ofRelation true TextRelation.endsWith),
    ("length", length),
    ("regex-matches", patternMatches)]

end Method

/-- A registry with more methods. -/
def Registry.registerAll (registry : Registry) (methods : List (String × Method)) : Registry :=
  methods.foldl (fun r m => r.register m.1 m.2) registry

/-- The registry of the standard methods. -/
def Registry.standard : Registry := Registry.empty.registerAll Method.standard

end LogFilter
