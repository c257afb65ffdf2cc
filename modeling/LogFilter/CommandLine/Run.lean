import LogFilter.CommandLine.Help
import LogFilter.CommandLine.Reader
import LogFilter.CommandLine.Report
import LogFilter.CommandLine.Style
import LogFilter.Event.Printer

/-!
# Running the program

What a run prints, and the code with which it ends, as a function of the words on the command line
and of the surroundings. Files are looked at in this order: the file of rules, unless a condition on
the command line takes its place, then the file of events. A run that fails has no output, but a
report.

Beside its output a run writes records. Of these there are the warnings, and which of them are
printed; more diagnostic output, if it is asked for, counts for nothing else. Left out are the
records of less weight, on what is loaded and converted, and the time and the colours that are
printed with records. Times are those of one zone, UTC, whatever the zone of the system is.
-/

namespace LogFilter.CommandLine

/-- Where the program runs. -/
structure Host where
  /-- The values of the variables of the environment. -/
  environment : String → Option String
  /-- What the file at a path holds. -/
  file : String → File
  /-- Whether a terminal shows the output. -/
  isTerminal : Bool
  /-- The time, for events that give none. -/
  now : DateTime
  /-- Which warnings the environment wants to be printed; `none` if it does not say. -/
  admission? : Option (Warning → Bool)

/-- What a run leaves behind. -/
structure Outcome where
  exitCode : Nat
  output : String
  /-- The warnings that are printed beside the output, in order. -/
  warnings : List Warning
  /-- What is printed after the warnings, of a run that fails. -/
  report : String
  deriving DecidableEq, Repr

/-- What a command prints, and of what it warns. -/
structure Printed where
  output : String
  warnings : List Warning
  deriving DecidableEq, Repr

/-- Parses a condition from the command line. -/
def parseCondition (text : String) : Except RunError Expr :=
  (Expr.parse .standard text).mapError (.invalidCondition text)

/-! ## Values and events for the eye -/

/-- How a value is shown, without a style. -/
def shownValue : Value → String
  | .null => "null"
  | .string s => "'" ++ s ++ "'"
  | v => v.text

def valueStyle : Value → Style
  | .null => .faint
  | .bool true => .boldGreen
  | .bool false => .boldRed
  | .string _ => .cyan
  | _ => .plain

def valueText (colored : Bool) (v : Value) : String := (valueStyle v).paint colored (shownValue v)

/-- The name of a level in capitals and five columns wide. -/
def levelLabel : Level → String
  | .trace => "TRACE"
  | .debug => "DEBUG"
  | .info => "INFO "
  | .warn => "WARN "
  | .error => "ERROR"
  | .fatal => "FATAL"
  | .off => "OFF  "

def levelStyle : Level → Style
  | .trace => .faint
  | .debug => .faint
  | .info => .green
  | .warn => .yellow
  | .error => .boldRed
  | .fatal => .boldRed
  | .off => .plain

/-- An event on one line, and its exception on another. -/
def eventText (colored : Bool) (event : Event) : String :=
  let time := Style.faint.paint colored (String.ofList event.timestamp.millisecondText)
  let level := (levelStyle event.level).paint colored (levelLabel event.level)
  let logger := Style.blue.paint colored event.logger
  time ++ " " ++ level ++ " " ++ logger ++ " " ++ event.message ++ "\n"
    ++ (match event.exception with
      | some e => "    " ++ Style.red.paint colored e.text ++ "\n"
      | none => "")

/-- The line that ends a list of events. -/
def summaryText (colored : Bool) (kept total : Nat) : String :=
  "\n" ++ Style.bold.paint colored "Matched" ++ " "
    ++ Style.boldGreen.paint colored (toString kept) ++ " of " ++ toString total ++ " events\n"

/-! ## Commands -/

/-- The event that is built from the command line. A property given twice has the later value. -/
def Evaluation.event (now : DateTime) (e : Evaluation) : Event :=
  let fields (pairs : List (String × String)) : Json.Fields :=
    pairs.foldl (fun fields p => Json.Fields.insert p.1 (.string p.2) fields) []
  { level := e.level
    logger := e.logger
    message := e.message
    exception := e.exception.map ExceptionInfo.ofText
    timestamp := now
    properties := fields e.properties
    scopeProperties := fields e.scopeProperties }

/-- Prints the value of a condition. -/
def Evaluation.run (now : DateTime) (colored : Bool) (e : Evaluation) :
    Except RunError Printed := do
  let condition ← parseCondition e.condition
  let value ← (condition.evaluate (e.event now)).mapError (.noValue condition.text)
  .ok ⟨valueText colored value ++ "\n", []⟩

/-- The rules of the file at a path, or those without a file. -/
def readConfig (file : String → File) : Option String → Except RunError Config
  | none => .ok .default
  | some path => (Config.read (file path)).mapError (.config path)

/-- The filters for a run: one for a condition, or those of the rules. -/
def filterChain (file : String → File) (condition config : Option String) :
    Except RunError Chain :=
  match condition with
  | some text => (parseCondition text).map .matching
  | none =>
    match readConfig file config with
    | .error error => .error error
    | .ok rules => (rules.chain .standard).mapError .rules

/-- What is printed of the events of a file. -/
def filteredText (colored json : Bool) (chain : Chain) (events : List Event) : String :=
  let kept := chain.kept events
  if json then String.join (kept.map fun event => event.jsonLine ++ "\n")
  else String.join (kept.map (eventText colored)) ++ summaryText colored kept.length events.length

/-- Prints the events of a file that filters let through. -/
def Filtering.run (file : String → File) (now : DateTime) (colored : Bool) (config : Option String)
    (f : Filtering) : Except RunError Printed := do
  let chain ← filterChain file f.condition config
  let events ← (Event.ofFile now (file f.file)).mapError (.events f.file)
  .ok ⟨filteredText colored f.json chain events, chain.warnings events⟩

/-- What a command prints. -/
def Arguments.run (host : Host) (arguments : Arguments) : Except RunError Printed :=
  let colored :=
    arguments.color.colors (colorsByDefault host.environment host.isTerminal)
  match arguments.command with
  | .parse condition => (parseCondition condition).map fun e => ⟨e.text ++ "\n", []⟩
  | .eval evaluation => evaluation.run host.now colored
  | .filter filtering => filtering.run host.file host.now colored arguments.config

/-! ## Runs -/

/-- Whether a warning is printed. Without a word from the environment all are, and so they are if
more diagnostic output is asked for on the command line. -/
def Host.admits (host : Host) (verbosity : Nat) (warning : Warning) : Bool :=
  if verbosity = 0 then (host.admission?.map fun admits => admits warning).getD true else true

/-- What a command line that leads to no command leaves behind. -/
def Stop.outcome : Stop → Outcome
  | help scope => ⟨0, scope.help, [], ""⟩
  | version => ⟨0, programName ++ " " ++ programVersion ++ "\n", [], ""⟩
  | nothingGiven => ⟨2, "", [], Scope.program.help⟩
  | stop => ⟨2, "", [], "error: " ++ stop.complaint ++ "\n"⟩

/-- Runs the program with the words after its name. -/
def run (host : Host) (words : List String) : Outcome :=
  match Arguments.read (host.environment configVariable) words with
  | .error stop => stop.outcome
  | .ok arguments =>
    let admits := host.admits arguments.verbosity
    match arguments.run host with
    | .ok printed => ⟨0, printed.output, printed.warnings.filter admits, ""⟩
    | .error error => ⟨1, "", error.warning?.toList.filter admits, error.report.text⟩

end LogFilter.CommandLine
