import LogFilter.Pattern.Reader
import LogFilter.Text.Split

/-!
# Options of patterns

Words that set the flags with which a pattern is read. They stand between commas, spaces and bars,
in any ASCII case and any order, and other blanks around a word do not count.
-/

namespace LogFilter.Pattern

open Text

namespace Flags

/-- The flags of a pattern without options. -/
def initial : Flags where
  ignoreCase := false
  multiLine := false
  dotAll := false
  verbose := false
  unicode := true
  returns := false

/-- The flags with one option more, which is a word in lower case. -/
def withOption? (flags : Flags) (word : String) : Option Flags :=
  match word with
  | "none" => some flags
  | "ignorecase" => some { flags with ignoreCase := true }
  | "multiline" => some { flags with multiLine := true }
  | "singleline" => some { flags with dotAll := true }
  | "ignorepatternwhitespace" => some { flags with verbose := true }
  | _ => none

end Flags

/-- What can stand between options. -/
def separatesOptions (c : Char) : Bool := c = ',' || c = ' ' || c = '|'

/-- The options of a text, in lower case. -/
def optionWords (s : List Char) : List String :=
  (((splitWhere separatesOptions s).map trim).filter fun word => !word.isEmpty).map fun word =>
    String.ofList (word.map Char.toLower)

/-- The flags that some options set, or the first word that is none. -/
def flagsOf (flags : Flags) : List String → Except String Flags
  | [] => .ok flags
  | word :: words =>
    match flags.withOption? word with
    | some flags => flagsOf flags words
    | none => .error word

/-- The flags that the options in a text set, or its first word that is none. -/
def readOptions (s : List Char) : Except String Flags := flagsOf .initial (optionWords s)

end LogFilter.Pattern
