import LogFilter.Level
import LogFilter.Text.Blank

/-!
# Arguments

Which arguments the program and its commands take, and what their values say. Flags stand alone;
parameters have a value. Some arguments can be given both before and after the name of a command.
-/

namespace LogFilter.CommandLine

/-! ## Who takes arguments -/

/-- What the program can be told to do. -/
inductive CommandName
  | parse | eval | filter
  deriving DecidableEq, Repr

namespace CommandName

def word : CommandName → String
  | parse => "parse"
  | eval => "eval"
  | filter => "filter"

/-- The command of a word; case counts. -/
def ofWord? (word : String) : Option CommandName := [parse, eval, filter].find? (·.word = word)

/-- The word that asks for help. -/
def helpWord : String := "help"

/-- Whether a word is in the place of a command. -/
def isReserved (word : String) : Bool := word = helpWord || (ofWord? word).isSome

end CommandName

/-- Where on the command line an argument stands. -/
inductive Scope
  /-- Before the name of a command. -/
  | program
  /-- After it. -/
  | command (name : CommandName)
  deriving DecidableEq, Repr

/-! ## Flags, parameters and settings -/

/-- An argument without a value. -/
inductive Flag
  | help | version | verbose | json
  deriving DecidableEq, Repr

/-- An argument with a value. -/
inductive Parameter
  | config | color | condition | level | logger | message | exception | property | scopeProperty
  | file
  deriving DecidableEq, Repr

/-- When output is coloured. -/
inductive ColorMode
  /-- If the surroundings favour it. -/
  | auto
  | always
  | never
  deriving DecidableEq, Repr

def ColorMode.word : ColorMode → String
  | auto => "auto"
  | always => "always"
  | never => "never"

/-- The mode of a word; case counts. -/
def ColorMode.ofWord? (word : String) : Option ColorMode :=
  [auto, always, never].find? (·.word = word)

/-- The word for a level on the command line, all in lower case. -/
def levelWord : Level → String
  | .trace => "trace"
  | .debug => "debug"
  | .info => "info"
  | .warn => "warn"
  | .error => "error"
  | .fatal => "fatal"
  | .off => "off"

/-- The level of a word; case counts. -/
def levelOfWord? (word : String) : Option Level := Level.all.find? (levelWord · = word)

/-- What one argument says. -/
inductive Setting
  | verbose
  | json
  | config (path : String)
  | color (mode : ColorMode)
  | condition (text : String)
  | level (level : Level)
  | logger (name : String)
  | message (text : String)
  | exception (text : String)
  | property (key value : String)
  | scopeProperty (key value : String)
  | file (path : String)
  deriving DecidableEq, Repr

/-- The parameter that a setting is a value of. -/
def Setting.parameter? : Setting → Option Parameter
  | verbose => none
  | json => none
  | config _ => some .config
  | color _ => some .color
  | condition _ => some .condition
  | level _ => some .level
  | logger _ => some .logger
  | message _ => some .message
  | exception _ => some .exception
  | property _ _ => some .property
  | scopeProperty _ _ => some .scopeProperty
  | file _ => some .file

/-- Why the command line leads to no run of a command. -/
inductive Stop
  /-- Help on the arguments of a scope was asked for. -/
  | help (scope : Scope)
  | version
  /-- There is nothing on the command line and nothing in the environment. -/
  | nothingGiven
  | missingCommand
  | missing (parameter : Parameter)
  /-- A word that can stand nowhere or can stand there no more. -/
  | unknown (word : String)
  /-- A word in the place of a command that is none. -/
  | unknownCommand (word : String)
  | noValue (parameter : Parameter)
  | badValue (parameter : Parameter) (value : String)
  /-- A value that should be a key and a value with `=` between them. -/
  | notKeyValue (parameter : Parameter) (value : String)
  /-- A flag that has been given a value. -/
  | needlessValue (flag : Flag) (value : String)
  | repeatedFlag (flag : Flag)
  | repeated (parameter : Parameter)
  deriving DecidableEq, Repr

/-- What is said of a value that is no key with its value. -/
def notKeyValueMessage (value : String) : String := "expected key=value, got '" ++ value ++ "'"

/-! ## Values -/

/-- Key and value around the first `=`. The blanks around the key do not belong to it, and something
must be left of it. -/
def keyValue? (s : String) : Option (String × String) :=
  match Text.breakOn ['='] s.toList with
  | some (key, value) =>
    let key := Text.trim key
    if key.isEmpty then none else some (String.ofList key, String.ofList value)
  | none => none

/-- A path, which must not be empty. -/
def path? (s : String) : Option String := if s.isEmpty then none else some s

namespace Parameter

/-- Whether a parameter can be given more than once. -/
def isRepeatable : Parameter → Bool
  | property => true
  | scopeProperty => true
  | _ => false

/-- What a value of a parameter says. -/
def read (parameter : Parameter) (value : String) : Except Stop Setting :=
  let orBad (setting : Option Setting) : Except Stop Setting :=
    match setting with
    | some s => .ok s
    | none => .error (.badValue parameter value)
  let orNotKeyValue (setting : Option Setting) : Except Stop Setting :=
    match setting with
    | some s => .ok s
    | none => .error (.notKeyValue parameter value)
  match parameter with
  | config => orBad ((path? value).map .config)
  | color => orBad ((ColorMode.ofWord? value).map .color)
  | condition => .ok (.condition value)
  | level => orBad ((levelOfWord? value).map .level)
  | logger => .ok (.logger value)
  | message => .ok (.message value)
  | exception => .ok (.exception value)
  | property => orNotKeyValue ((keyValue? value).map fun p => .property p.1 p.2)
  | scopeProperty => orNotKeyValue ((keyValue? value).map fun p => .scopeProperty p.1 p.2)
  | file => orBad ((path? value).map .file)

end Parameter

/-! ## How arguments are written -/

/-- A flag or a parameter. -/
inductive Argument
  | flag (flag : Flag)
  | parameter (parameter : Parameter)
  deriving DecidableEq, Repr

/-- An argument with the names by which it can be given. -/
structure Spelling where
  /-- The name after two hyphens. -/
  name : String
  /-- The name after one hyphen. -/
  letter? : Option Char
  argument : Argument

namespace Scope

/-- The arguments that can be given everywhere. -/
def sharedSpellings : List Spelling :=
  [⟨"config", none, .parameter .config⟩, ⟨"verbose", some 'v', .flag .verbose⟩,
    ⟨"color", none, .parameter .color⟩, ⟨"help", some 'h', .flag .help⟩]

/-- The arguments that can be given in one scope only. -/
def ownSpellings : Scope → List Spelling
  | program => [⟨"version", some 'V', .flag .version⟩]
  | command .parse => []
  | command .eval =>
    [⟨"level", some 'l', .parameter .level⟩, ⟨"logger", none, .parameter .logger⟩,
      ⟨"message", some 'm', .parameter .message⟩, ⟨"exception", none, .parameter .exception⟩,
      ⟨"property", some 'p', .parameter .property⟩,
      ⟨"scope-property", none, .parameter .scopeProperty⟩]
  | command .filter =>
    [⟨"condition", some 'c', .parameter .condition⟩, ⟨"json", none, .flag .json⟩]

/-- All arguments of a scope that are given by name. -/
def spellings (scope : Scope) : List Spelling := scope.ownSpellings ++ sharedSpellings

/-- The argument of a name after two hyphens. -/
def named? (scope : Scope) (name : String) : Option Argument :=
  (scope.spellings.find? fun s => s.name = name).map Spelling.argument

/-- The argument of a name after one hyphen. -/
def lettered? (scope : Scope) (letter : Char) : Option Argument :=
  (scope.spellings.find? fun s => s.letter? = some letter).map Spelling.argument

/-- The parameter that is given without a name and must be given. -/
def place? : Scope → Option Parameter
  | program => none
  | command .parse => some .condition
  | command .eval => some .condition
  | command .filter => some .file

end Scope

end LogFilter.CommandLine
