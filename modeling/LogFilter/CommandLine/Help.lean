import LogFilter.CommandLine.Argument

/-!
# Help

What the program says of its arguments, and what it says when they lead to no run.
-/

namespace LogFilter.CommandLine

/-- The name of the program. -/
def programName : String := "log-conditions"

def programVersion : String := "0.1.0"

/-- The variable of the environment that can name the file of rules. -/
def configVariable : String := "LOG_CONDITIONS_CONFIG"

def Parameter.placeholder : Parameter → String
  | config => "<CONFIG>"
  | color => "<COLOR>"
  | condition => "<CONDITION>"
  | level => "<LEVEL>"
  | logger => "<LOGGER>"
  | message => "<MESSAGE>"
  | exception => "<EXCEPTION>"
  | property => "<KEY=VALUE>"
  | scopeProperty => "<KEY=VALUE>"
  | file => "<FILE>"

def Parameter.purpose : Parameter → String
  | config => "TOML file with filter rules [env: " ++ configVariable ++ "]"
  | color => "When to use colored output [default: auto] [possible values: auto, always, never]"
  | condition => "Condition text, e.g. \"level >= 'Warn' and contains(message, 'timeout')\""
  | level =>
    "Event level [default: info] [possible values: trace, debug, info, warn, error, fatal, off]"
  | logger => "Logger name"
  | message => "Event message"
  | exception => "Exception text in \"Type: message\" form"
  | property => "Event property as key=value (repeatable)"
  | scopeProperty => "Scope property as key=value (repeatable)"
  | file => "JSON-lines file with one event per line"

def Flag.purpose : Flag → String
  | help => "Print help"
  | version => "Print version"
  | verbose => "Increase diagnostic output (-v for debug, -vv for trace)"
  | json => "Print surviving events as JSON lines"

def CommandName.purpose : CommandName → String
  | parse => "Parse a condition and print its canonical form"
  | eval => "Evaluate a condition against an event built from the arguments"
  | filter => "Print the events of a JSON-lines file that pass the filters"

namespace Scope

def purpose : Scope → String
  | program => "Parse, evaluate and apply log filter conditions"
  | command name => name.purpose

/-- How a call looks. -/
def usage : Scope → String
  | program => programName ++ " [OPTIONS] <COMMAND>"
  | command name =>
    programName ++ " " ++ name.word ++ " [OPTIONS] "
      ++ ((command name).place?.elim "" Parameter.placeholder)

/-- Lines of two columns, of which the first is as wide as its widest entry. -/
def columns (rows : List (String × String)) : List String :=
  let width := (rows.map fun row => row.1.length).foldl max 0
  rows.map fun row => "  " ++ String.ofList (row.1.toList.rightpad width ' ') ++ "  " ++ row.2

/-- The two columns for an argument given by name. -/
def row (s : Spelling) : String × String :=
  let letter :=
    match s.letter? with
    | some c => String.ofList ['-', c] ++ ", "
    | none => "    "
  match s.argument with
  | .flag flag => (letter ++ "--" ++ s.name, flag.purpose)
  | .parameter parameter =>
    (letter ++ "--" ++ s.name ++ " " ++ parameter.placeholder, parameter.purpose)

/-- The lines on what is given by its place. -/
def placeLines : Scope → List String
  | program =>
    "Commands:" :: columns
      ([CommandName.parse, .eval, .filter].map (fun name => (name.word, name.purpose))
        ++ [(CommandName.helpWord, "Print this message or the help of the given subcommand(s)")])
  | scope =>
    match scope.place? with
    | some parameter => "Arguments:" :: columns [(parameter.placeholder, parameter.purpose)]
    | none => []

/-- What is said when help is asked for. -/
def help (scope : Scope) : String :=
  String.intercalate "\n"
    ([scope.purpose, "", "Usage: " ++ scope.usage, ""] ++ scope.placeLines
      ++ ["", "Options:"] ++ columns (scope.spellings.map row)) ++ "\n"

end Scope

/-- What is wrong with the command line. -/
def Stop.complaint : Stop → String
  | help _ => "help was asked for"
  | version => "the version was asked for"
  | nothingGiven => "no arguments were provided"
  | missingCommand => "'" ++ programName ++ "' requires a subcommand but one was not provided"
  | missing parameter =>
    "the following required arguments were not provided: " ++ parameter.placeholder
  | unknown word => "unexpected argument '" ++ word ++ "' found"
  | unknownCommand word => "unrecognized subcommand '" ++ word ++ "'"
  | noValue parameter =>
    "a value is required for '" ++ parameter.placeholder ++ "' but none was supplied"
  | badValue parameter value => "invalid value '" ++ value ++ "' for '" ++ parameter.placeholder ++ "'"
  | notKeyValue parameter value =>
    "invalid value '" ++ value ++ "' for '" ++ parameter.placeholder ++ "': "
      ++ notKeyValueMessage value
  | needlessValue _ value => "unexpected value '" ++ value ++ "' for a flag found; no more were expected"
  | repeatedFlag _ => "a flag cannot be used multiple times"
  | repeated parameter =>
    "the argument '" ++ parameter.placeholder ++ "' cannot be used multiple times"

end LogFilter.CommandLine
