import LogFilter.Condition.Parser
import LogFilter.File
import LogFilter.Filter.Chain
import LogFilter.Toml.Reader

/-!
# Filter rules from a file

A TOML file names the action for events about which no filter decides, and lists filters with their
conditions as text. Names that mean nothing here are passed over.

A list of filters is an array of tables, and each filter may also be an array of its condition and
its action. An action is a string, or a table whose only name is the action and whose only value is
empty.
-/

namespace LogFilter

/-- A filter whose condition is still text. -/
structure Rule where
  condition : String
  action : Action
  deriving DecidableEq, Repr

/-- Rules in order, and the action for events about which none decides. -/
structure Config where
  defaultAction : Action
  rules : List Rule
  deriving DecidableEq, Repr

/-- The rule whose condition cannot be parsed, by its place from zero on. -/
structure ConditionError where
  index : Nat
  condition : String
  cause : ParseError
  deriving DecidableEq, Repr

def ConditionError.message (e : ConditionError) : String :=
  "Invalid condition in filter #" ++ toString e.index ++ " '" ++ e.condition ++ "': "
    ++ e.cause.message

/-- Why a file gave no rules. -/
inductive ConfigError
  | unreadable (cause : FileError)
  /-- The text is no TOML, or its values are of the wrong kinds. -/
  | malformed
  deriving DecidableEq, Repr

namespace Config

/-- No rules and no decision. -/
def default : Config := ⟨.neutral, []⟩

/-- Whether a value is an empty table or an empty array. -/
def isEmptyValue : Toml → Bool
  | .table entries => entries.isEmpty
  | .array items => items.isEmpty
  | _ => false

/-- The action that a value names. -/
def action? : Toml → Option Action
  | .string s => Action.ofName? s
  | .table [(name, value)] => if isEmptyValue value then Action.ofName? name else none
  | _ => none

def string? : Toml → Option String
  | .string s => some s
  | _ => none

/-- The rule that a value describes. -/
def rule? : Toml → Option Rule
  | .table entries => do
    let condition ← Toml.find? "condition" entries >>= string?
    let action ← Toml.find? "action" entries >>= action?
    some ⟨condition, action⟩
  | .array (condition :: action :: _) => do
    let condition ← string? condition
    let action ← action? action
    some ⟨condition, action⟩
  | _ => none

/-- The rules that a value lists. -/
def rules? : Toml → Option (List Rule)
  | .array items => items.mapM rule?
  | _ => none

/-- The rules of a document. -/
def ofToml? (entries : List (String × Toml)) : Option Config := do
  let defaultAction ←
    match Toml.find? "default_action" entries with
    | some value => action? value
    | none => some default.defaultAction
  let rules ←
    match Toml.find? "filters" entries with
    | some value => rules? value
    | none => some default.rules
  some ⟨defaultAction, rules⟩

/-- The rules of a file. -/
def read (file : File) : Except ConfigError Config :=
  match file with
  | .error cause => .error (.unreadable cause)
  | .ok contents =>
    if contents.isBroken then .error (.unreadable .notText)
    else
      match Toml.read? contents.text >>= ofToml? with
      | some config => .ok config
      | none => .error .malformed

/-- Parses the conditions of rules, of which the first has the place `index`. -/
def filtersFrom (env : Surroundings) (index : Nat) : List Rule → Except ConditionError (List Filter)
  | [] => .ok []
  | rule :: rules =>
    match Expr.parse env rule.condition with
    | .error cause => .error ⟨index, rule.condition, cause⟩
    | .ok condition => (filtersFrom env (index + 1) rules).map (⟨condition, rule.action⟩ :: ·)

/-- The chain of the rules in their order. The first condition that cannot be parsed ends the
building. -/
def chain (config : Config) (env : Surroundings) : Except ConditionError Chain :=
  (filtersFrom env 0 config.rules).map fun filters => ⟨filters, config.defaultAction⟩

end Config

end LogFilter
