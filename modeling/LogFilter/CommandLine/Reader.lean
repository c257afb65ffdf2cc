import LogFilter.CommandLine.Arguments

/-!
# Reading the command line

Words are read from the left. A parameter named without a value in the same word waits for one, and
takes the next word unless that word is an option itself. What a parameter was given is looked at
only when the next argument comes, so an unknown argument is reported before a bad value just before
it. After a word `--` no word is an option or a command.

The words after the name of a command belong to that command, and its mistakes are reported before
those of a parameter that was left without a look.
-/

namespace LogFilter.CommandLine

/-! ## Words -/

/-- A word of the command line by its form. -/
inductive Word
  /-- Two hyphens alone. -/
  | separator
  /-- A name after two hyphens, and what follows the first `=` after it. -/
  | named (name : String) (value : Option String)
  /-- One or more names after one hyphen. -/
  | lettered (letters : List Char)
  | plain (text : String)
  deriving DecidableEq, Repr

/-- The form of a word. A hyphen alone is a plain word. -/
def Word.of (word : String) : Word :=
  match word.toList with
  | ['-', '-'] => .separator
  | '-' :: '-' :: rest =>
    match Text.breakOn ['='] rest with
    | some (name, value) => .named (String.ofList name) (some (String.ofList value))
    | none => .named (String.ofList rest) none
  | '-' :: c :: rest => .lettered (c :: rest)
  | _ => .plain word

/-! ## One argument after the other -/

/-- How far the arguments of a scope have been read. -/
structure Progress where
  /-- What the arguments say that have been looked at. -/
  settings : List Setting
  /-- The parameter given last, and its value unless that is still to come. -/
  pending : Option (Parameter × Option String)

namespace Progress

def start : Progress := ⟨[], none⟩

/-- Whether the next word can be the value of a parameter. -/
def isWaiting (p : Progress) : Bool :=
  match p.pending with
  | some (_, none) => true
  | _ => false

/-- Whether a parameter has been given. -/
def mentions (p : Progress) (parameter : Parameter) : Bool :=
  p.pending.any (·.1 = parameter) || p.settings.any (·.parameter? = some parameter)

/-- Looks at the value of a parameter. -/
def record (settings : List Setting) (parameter : Parameter) (value : String) :
    Except Stop Progress :=
  if !parameter.isRepeatable && settings.any (·.parameter? = some parameter) then
    .error (.repeated parameter)
  else (parameter.read value).map fun setting => ⟨settings ++ [setting], none⟩

/-- Looks at the parameter given last. -/
def resolve (p : Progress) : Except Stop Progress :=
  match p.pending with
  | none => .ok p
  | some (parameter, none) => .error (.noValue parameter)
  | some (parameter, some value) => record p.settings parameter value

/-- A parameter whose value may come in the next word. -/
def await (p : Progress) (parameter : Parameter) : Except Stop Progress :=
  p.resolve.map fun p => { p with pending := some (parameter, none) }

/-- A parameter with its value in the same word. -/
def give (p : Progress) (parameter : Parameter) (value : String) : Except Stop Progress :=
  match p.resolve with
  | .error stop => .error stop
  | .ok p => record p.settings parameter value

/-- A flag. -/
def raise (scope : Scope) (p : Progress) (flag : Flag) : Except Stop Progress :=
  match p.resolve with
  | .error stop => .error stop
  | .ok p =>
    match flag with
    | .help => .error (.help scope)
    | .version => .error .version
    | .verbose => .ok { p with settings := p.settings ++ [.verbose] }
    | .json =>
      if p.settings.contains .json then .error (.repeatedFlag .json)
      else .ok { p with settings := p.settings ++ [.json] }

/-- An argument by its name after two hyphens. -/
def readNamed (scope : Scope) (p : Progress) (word name : String) (value : Option String) :
    Except Stop Progress :=
  match scope.named? name, value with
  | none, _ => .error (.unknown word)
  | some (.flag flag), none => p.raise scope flag
  | some (.flag flag), some value => .error (.needlessValue flag value)
  | some (.parameter parameter), none => p.await parameter
  | some (.parameter parameter), some value => p.give parameter value

/-- Arguments by their names after one hyphen. After a parameter the rest is its value, without an
`=` before it. -/
def readLetters (scope : Scope) (p : Progress) : List Char → Except Stop Progress
  | [] => .ok p
  | letter :: rest =>
    match scope.lettered? letter with
    | none => .error (.unknown (String.ofList ['-', letter]))
    | some (.flag flag) =>
      match p.raise scope flag with
      | .error stop => .error stop
      | .ok p => readLetters scope p rest
    | some (.parameter parameter) =>
      match rest with
      | [] => p.await parameter
      | '=' :: value => p.give parameter (String.ofList value)
      | value => p.give parameter (String.ofList value)

/-- A word that is given by its place alone. -/
def readPlaced (scope : Scope) (afterSeparator : Bool) (p : Progress) (word : String) :
    Except Stop Progress :=
  match scope.place? with
  | some parameter =>
    if p.mentions parameter then .error (.unknown word)
    else p.resolve.map fun p => { p with pending := some (parameter, some word) }
  | none =>
    if afterSeparator && CommandName.isReserved word then .error (.unknown word)
    else .error (.unknownCommand word)

/-- A plain word: the value of a parameter that waits for one, or else an argument by its place. -/
def readPlain (scope : Scope) (p : Progress) (word : String) : Except Stop Progress :=
  match p.pending with
  | some (parameter, none) => .ok { p with pending := some (parameter, some word) }
  | _ => p.readPlaced scope false word

end Progress

/-! ## All words -/

/-- What the words after `help` lead to: help on one command or on the program. -/
def helpOn : List String → Stop
  | [] => .help .program
  | word :: rest =>
    if CommandName.isReserved word then
      match rest with
      | [] => .help ((CommandName.ofWord? word).elim .program .command)
      | next :: _ => .unknownCommand next
    else .unknownCommand word

/-- The words of a scope after `--`. -/
def readPlacedWords (scope : Scope) (p : Progress) : List String → Except Stop Progress
  | [] => .ok p
  | word :: rest =>
    match p.readPlaced scope true word with
    | .error stop => .error stop
    | .ok p => readPlacedWords scope p rest

/-- The words of a scope up to the name of a command, and that command with the words after it. -/
def readWords (scope : Scope) (p : Progress) :
    List String → Except Stop (Progress × Option (CommandName × List String))
  | [] => .ok (p, none)
  | word :: rest =>
    let next (result : Except Stop Progress) :=
      match result with
      | .error stop => .error stop
      | .ok p => readWords scope p rest
    let atCommand := scope = .program && !p.isWaiting
    if atCommand && word = CommandName.helpWord then .error (helpOn rest)
    else
      match if atCommand then CommandName.ofWord? word else none with
      | some name => .ok (p, some (name, rest))
      | none =>
        match Word.of word with
        | .separator => (readPlacedWords scope p rest).map (·, none)
        | .named name value => next (p.readNamed scope word name value)
        | .lettered letters => next (p.readLetters scope letters)
        | .plain text => next (p.readPlain scope text)

/-- What all arguments of a scope say, once there are no more of them. The path in the environment
is looked at only if none was given. -/
def finish (environment : Option String) (p : Progress) : Except Stop (List Setting) :=
  match p.resolve with
  | .error stop => .error stop
  | .ok p =>
    match p.settings.findSome? Setting.config?, environment with
    | none, some path => (Parameter.config.read path).map fun _ => p.settings
    | _, _ => .ok p.settings

/-- What the words after the name of a command say. -/
def readCommand (environment : Option String) (name : CommandName) (words : List String) :
    Except Stop (List Setting × Command) := do
  let (p, _) ← readWords (.command name) .start words
  let settings ← finish environment p
  let command ← Command.ofSettings name settings
  .ok (settings, command)

/-- Reads the words after the program's name; `environment` is the path of the rules that the
environment names. -/
def Arguments.read (environment : Option String) (words : List String) :
    Except Stop Arguments := do
  match ← readWords .program .start words with
  | (p, some (name, rest)) =>
    let (inner, command) ← readCommand environment name rest
    let outer ← finish environment p
    .ok (.of environment outer inner command)
  | (p, none) =>
    let settings ← finish environment p
    .error (if settings.isEmpty && environment.isNone then .nothingGiven else .missingCommand)

end LogFilter.CommandLine
