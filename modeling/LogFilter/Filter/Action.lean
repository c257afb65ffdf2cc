import LogFilter.Text.Blank
import LogFilter.Text.Lowercase

/-!
# Actions

What a filter decides about an event. A neutral filter leaves the decision to the next one. The
final actions decide like those without the word; that no later filter is asked holds of all that
decide.
-/

namespace LogFilter

/-- What is done with an event. -/
inductive Action
  | neutral | log | ignore | logFinal | ignoreFinal
  deriving DecidableEq, Repr, Inhabited

namespace Action

def all : List Action := [neutral, log, ignore, logFinal, ignoreFinal]

def name : Action → String
  | neutral => "neutral"
  | log => "log"
  | ignore => "ignore"
  | logFinal => "log-final"
  | ignoreFinal => "ignore-final"

/-- The action of a name as it is written. -/
def ofName? (s : String) : Option Action := all.find? fun action => action.name == s

/-- The action of a name with blanks around it, in any case, with underscores for hyphens, and for
the final actions also without the hyphen. -/
def read? (s : String) : Option Action :=
  let word := (Text.lower (Text.trim s.toList)).map fun c => if c = '_' then '-' else c
  match String.ofList word with
  | "logfinal" => some logFinal
  | "ignorefinal" => some ignoreFinal
  | name => ofName? name

/-- What is said of a name that is no action's. -/
def unknownMessage (s : String) : String :=
  "Unknown filter action: '" ++ s ++ "'. Valid actions are: "
    ++ ", ".intercalate (all.map name)

/-- Whether an event is written for which this was decided. -/
def allowsLogging : Action → Bool
  | ignore | ignoreFinal => false
  | _ => true

theorem ofName?_name (action : Action) : ofName? action.name = some action := by
  cases action <;> decide +kernel

end Action

end LogFilter
