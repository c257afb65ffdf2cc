import LogFilter.CommandLine.Run
import Std.Time.DateTime

/-!
# The program

Looks up what a run needs to know, runs, and prints what the run says. The zone of the system is
taken to be UTC, and of what the environment says of warnings only the name of a least level is
understood.
-/

namespace LogFilter.Program

open CommandLine

/-- What the system says of a failure to read a file. -/
def fileError : IO.Error → FileError
  | .noFileOrDirectory _ _ _ => .notFound
  | .permissionDenied _ _ _ => .notPermitted
  | .inappropriateType _ code _ => if code = 21 then .isDirectory else .notDirectory
  | error => .other (toString error)

/-- What the file at a path holds. -/
def readFile (path : String) : IO File := do
  try
    let bytes ← IO.FS.readBinFile path
    return .ok (Text.decode bytes.toList)
  catch error => return .error (fileError error)

/-- The time in the zone UTC. -/
def currentTime : IO DateTime := do
  let now ← Std.Time.Timestamp.now
  let t := Std.Time.PlainDateTime.ofWallTime (now.toWallTime .zero)
  let date := Date.of? t.year.toInt t.month.val.toNat t.day.val.toNat
  let time := Time.of? t.hour.val.toNat t.minute.val.toNat t.second.val.toNat t.nanosecond.val.toNat
  return ⟨date.getD ⟨1970, 1, 1, by decide⟩, time.getD .midnight⟩

/-- The paths that a run with these words may look at. -/
def paths (environment : Option String) (words : List String) : List String :=
  match Arguments.read environment words with
  | .error _ => []
  | .ok arguments =>
    match arguments.command with
    | .filter f =>
      f.file :: (match f.condition with
        | some _ => []
        | none => arguments.config.toList)
    | _ => []

/-- The variables of the environment that a run may look at. -/
def variableNames : List String := [configVariable, "CLICOLOR_FORCE", "NO_COLOR", "CLICOLOR"]

/-- The variable that says which records are printed. -/
def recordsVariable : String := "RUST_LOG"

/-- What the name of a least level says of warnings. -/
def admission? (level : String) : Option (Warning → Bool) :=
  match String.ofList (level.toList.map Char.toLower) with
  | "off" | "error" => some fun _ => false
  | "warn" | "info" | "debug" | "trace" => some fun _ => true
  | _ => none

end LogFilter.Program

open LogFilter LogFilter.CommandLine LogFilter.Program in
/-- Runs the program on its command line. -/
def main (words : List String) : IO UInt32 := do
  let environment ← variableNames.mapM fun name => return (name, ← IO.getEnv name)
  let valueOf (name : String) : Option String := (environment.lookup name).join
  let files ← (paths (valueOf configVariable) words).mapM fun path =>
    return (path, ← readFile path)
  let stdout ← IO.getStdout
  let host : Host :=
    { environment := valueOf
      file := fun path => (files.lookup path).getD (.error .notFound)
      isTerminal := ← stdout.isTty
      now := ← currentTime
      admission? := (← IO.getEnv recordsVariable).bind admission? }
  let outcome := run host words
  stdout.putStr outcome.output
  let stderr ← IO.getStderr
  stderr.putStr (String.join (outcome.warnings.map Warning.text))
  stderr.putStr outcome.report
  return outcome.exitCode.toUInt32
