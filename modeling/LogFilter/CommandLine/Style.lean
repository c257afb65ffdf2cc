import LogFilter.CommandLine.Argument

/-!
# Colours

Text on a terminal is coloured by putting it between two sequences of characters, one that sets a
style and one that resets it. Where coloured text itself holds the second one, the style is set
again after it.
-/

namespace LogFilter.CommandLine

/-- How a piece of text looks. -/
inductive Style
  | plain | faint | bold | red | green | yellow | blue | cyan | boldRed | boldGreen
  deriving DecidableEq, Repr

namespace Style

/-- The numbers that set a style. -/
def code? : Style → Option String
  | plain => none
  | faint => some "2"
  | bold => some "1"
  | red => some "31"
  | green => some "32"
  | yellow => some "33"
  | blue => some "34"
  | cyan => some "36"
  | boldRed => some "1;31"
  | boldGreen => some "1;32"

/-- The sequence for a code. -/
def sequence (code : String) : List Char := '\x1b' :: '[' :: code.toList ++ ['m']

/-- The sequence that ends all styles. -/
def reset : List Char := sequence "0"

/-- A text in which `opening` follows every reset. The first number counts characters of a reset
that are still to be passed over, of which the last one is followed by `opening`. -/
def reopenedFrom (opening : List Char) : Nat → List Char → List Char
  | _, [] => []
  | 0, c :: r =>
    c :: (if reset.isPrefixOf (c :: r) then reopenedFrom opening (reset.length - 1) r
      else reopenedFrom opening 0 r)
  | 1, c :: r => c :: (opening ++ reopenedFrom opening 0 r)
  | n + 2, c :: r => c :: reopenedFrom opening (n + 1) r

/-- A text in which `opening` follows every reset. -/
def reopened (opening s : List Char) : List Char := reopenedFrom opening 0 s

/-- A text in a style, if output is coloured at all. -/
def paint (colored : Bool) (style : Style) (text : String) : String :=
  match colored, style.code? with
  | true, some code =>
    String.ofList (sequence code ++ reopened (sequence code) text.toList ++ reset)
  | _, _ => text

end Style

/-- Whether a variable of the environment is set to something else than `0`. -/
def isOn (value : Option String) : Bool := value.any (· ≠ "0")

/-- Whether output is coloured if the command line leaves it open. It can be forced on, then off;
else terminals have colours unless they are taken away. -/
def colorsByDefault (environment : String → Option String) (isTerminal : Bool) : Bool :=
  if isOn (environment "CLICOLOR_FORCE") then true
  else if (environment "NO_COLOR").isSome then false
  else isTerminal && (isOn (environment "CLICOLOR") || (environment "CLICOLOR").isNone)

/-- Whether output is coloured in a mode. -/
def ColorMode.colors (mode : ColorMode) (byDefault : Bool) : Bool :=
  match mode with
  | auto => byDefault
  | always => true
  | never => false

end LogFilter.CommandLine
