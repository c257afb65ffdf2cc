import LogFilter.Text.CategoryTable
import LogFilter.Text.ExtenderTable

/-!
# Characters made visible

The form in which a message shows a single character: between single quotes, itself where it can
be seen, else by an escape.
-/

namespace LogFilter.Text

/-- Characters that can be shown as they are: the space, and all but separators and others. -/
def isPrintable (c : Char) : Bool :=
  c = ' ' || [Category.cc, .cf, .co, .cn, .zs, .zl, .zp].all fun category => !category.holds c

/-- Lower-case hexadecimal digits without leading zeros. -/
def hexDigits (n : Nat) : List Char := Nat.toDigits 16 n

/-- The visible form of a character, without quotes around it. -/
def visibleBody (c : Char) : List Char :=
  match c with
  | '\x00' => ['\\', '0']
  | '\t' => ['\\', 't']
  | '\n' => ['\\', 'n']
  | '\r' => ['\\', 'r']
  | '\'' => ['\\', '\'']
  | '\\' => ['\\', '\\']
  | _ =>
    if !graphemeExtendTable.covers c.toNat && isPrintable c then [c]
    else ['\\', 'u', '\x7b'] ++ hexDigits c.toNat ++ ['\x7d']

/-- The visible form of a character in single quotes. -/
def visible (c : Char) : String := String.ofList (['\''] ++ visibleBody c ++ ['\''])

end LogFilter.Text
