import LogFilter.CommandLine.Argument

/-!
# What the command line says

All arguments together: the command with what it needs, and what holds for every command.
-/

namespace LogFilter.CommandLine

/-- A condition, and the event for which it is to be evaluated. -/
structure Evaluation where
  condition : String
  level : Level
  logger : String
  message : String
  exception : Option String
  properties : List (String × String)
  scopeProperties : List (String × String)
  deriving DecidableEq, Repr

/-- A file whose events are to be filtered. -/
structure Filtering where
  file : String
  /-- The condition that takes the place of the rules from a file. -/
  condition : Option String
  /-- Whether events are printed as JSON. -/
  json : Bool
  deriving DecidableEq, Repr

/-- What the program is to do. -/
inductive Command
  | parse (condition : String)
  | eval (evaluation : Evaluation)
  | filter (filtering : Filtering)
  deriving DecidableEq, Repr

/-- What the command line says. -/
structure Arguments where
  config : Option String
  /-- How often more diagnostic output was asked for. -/
  verbosity : Nat
  color : ColorMode
  command : Command
  deriving DecidableEq, Repr

/-! ## Looking settings up -/

namespace Setting

def config? : Setting → Option String
  | config path => some path
  | _ => none

def color? : Setting → Option ColorMode
  | color mode => some mode
  | _ => none

def condition? : Setting → Option String
  | condition text => some text
  | _ => none

def level? : Setting → Option Level
  | level l => some l
  | _ => none

def logger? : Setting → Option String
  | logger name => some name
  | _ => none

def message? : Setting → Option String
  | message text => some text
  | _ => none

def exception? : Setting → Option String
  | exception text => some text
  | _ => none

def property? : Setting → Option (String × String)
  | property key value => some (key, value)
  | _ => none

def scopeProperty? : Setting → Option (String × String)
  | scopeProperty key value => some (key, value)
  | _ => none

def file? : Setting → Option String
  | file path => some path
  | _ => none

end Setting

/-- The command of a name with what settings say of it. -/
def Command.ofSettings (name : CommandName) (settings : List Setting) : Except Stop Command :=
  match name with
  | .parse =>
    match settings.findSome? Setting.condition? with
    | some condition => .ok (.parse condition)
    | none => .error (.missing .condition)
  | .eval =>
    match settings.findSome? Setting.condition? with
    | some condition =>
      .ok (.eval
        { condition := condition
          level := (settings.findSome? Setting.level?).getD .info
          logger := (settings.findSome? Setting.logger?).getD ""
          message := (settings.findSome? Setting.message?).getD ""
          exception := settings.findSome? Setting.exception?
          properties := settings.filterMap Setting.property?
          scopeProperties := settings.filterMap Setting.scopeProperty? })
    | none => .error (.missing .condition)
  | .filter =>
    match settings.findSome? Setting.file? with
    | some file =>
      .ok (.filter ⟨file, settings.findSome? Setting.condition?, settings.contains .json⟩)
    | none => .error (.missing .file)

namespace Arguments

/-- The most that more diagnostic output is counted to. -/
def verbosityLimit : Nat := 255

/-- How often settings ask for more diagnostic output. -/
def verbosityOf (settings : List Setting) : Nat := min verbosityLimit (settings.count .verbose)

/-- A command with what was said before its name (`outer`), after it (`inner`) and in the
environment. What comes later on the command line goes before what came earlier, and both go before
the environment; counts are not added up. -/
def of (environment : Option String) (outer inner : List Setting) (command : Command) :
    Arguments where
  config := inner.findSome? Setting.config? <|> outer.findSome? Setting.config? <|> environment
  verbosity := if inner.contains .verbose then verbosityOf inner else verbosityOf outer
  color := (inner.findSome? Setting.color? <|> outer.findSome? Setting.color?).getD .auto
  command := command

end Arguments

end LogFilter.CommandLine
