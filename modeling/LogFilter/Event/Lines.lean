import LogFilter.Event.Reader
import LogFilter.File
import LogFilter.Text.Blank

/-!
# Files of events

A file has one event on each line. Lines of blanks are counted and passed over. The first line that
holds no event ends the reading, and so do bytes that are no text.
-/

namespace LogFilter.Event

/-- Why a file gave no events. -/
inductive LinesError
  /-- The line of this number, counted from one, holds no event. -/
  | invalidLine (number : Nat) (fault : Json.Fault)
  | unreadable (cause : FileError)
  deriving DecidableEq, Repr

/-- A line without the carriage return before its end. -/
def dropReturn (line : List Char) : List Char :=
  if line.getLast? = some '\r' then line.dropLast else line

/-- The lines of a text, after the characters `line` of the first one in reverse order. Each line
ends at a line feed, the last one also at the end of the text, unless it is empty. -/
def linesFrom (line : List Char) : List Char → List (List Char)
  | [] => if line.isEmpty then [] else [line.reverse]
  | '\n' :: r => dropReturn line.reverse :: linesFrom [] r
  | c :: r => linesFrom (c :: line) r

/-- The lines of a text, each without its line feed and a carriage return before that. -/
def physicalLines (s : List Char) : List (List Char) := linesFrom [] s

/-- The events of lines, of which the first has the number `number`. -/
def readLines (now : DateTime) : Nat → List (List Char) → Except LinesError (List Event)
  | _, [] => .ok []
  | number, line :: lines =>
    if Text.isBlankText line then readLines now (number + 1) lines
    else
      match read now line with
      | .error fault => .error (.invalidLine number fault)
      | .ok event => (readLines now (number + 1) lines).map (event :: ·)

/-- The lines of a text that come before its last line feed. -/
def finishedLines (s : List Char) : List (List Char) :=
  physicalLines ((s.reverse.dropWhile (· ≠ '\n')).reverse)

/-- The events of what a file holds. If its text is broken off, the line where that happens cannot be read,
but a wrong line before it is reported first. -/
def readContents (now : DateTime) (contents : Text.Contents) : Except LinesError (List Event) :=
  if contents.isBroken then
    match readLines now 1 (finishedLines contents.text) with
    | .error e => .error e
    | .ok _ => .error (.unreadable .notText)
  else readLines now 1 (physicalLines contents.text)

/-- The events of a file that may not be there. -/
def ofFile (now : DateTime) (file : File) : Except LinesError (List Event) :=
  match file with
  | .error cause => .error (.unreadable cause)
  | .ok contents => readContents now contents

end LogFilter.Event
