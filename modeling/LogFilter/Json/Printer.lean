import LogFilter.Decimal.Printer
import LogFilter.Json.Basic

/-!
# Writing JSON

The compact form: no blanks, fields in order, and an escape for quotes, backslashes and control
characters only.
-/

namespace LogFilter.Json

/-- A hexadecimal digit in lower case. -/
def hexDigit (n : Nat) : Char := if n < 10 then Char.ofNat (48 + n) else Char.ofNat (87 + n)

/-- What stands for a character between double quotes. -/
def escapeChar (c : Char) : List Char :=
  match c with
  | '"' => ['\\', '"']
  | '\\' => ['\\', '\\']
  | '\x08' => ['\\', 'b']
  | '\x0c' => ['\\', 'f']
  | '\n' => ['\\', 'n']
  | '\r' => ['\\', 'r']
  | '\t' => ['\\', 't']
  | _ =>
    if c.toNat < 0x20 then ['\\', 'u', '0', '0', hexDigit (c.toNat / 16), hexDigit (c.toNat % 16)]
    else [c]

/-- A text in double quotes. -/
def quoted (s : String) : List Char := '"' :: (s.toList.flatMap escapeChar ++ ['"'])

def Number.text : Number → List Char
  | .int i => (toString i).toList
  | .double x => Decimal.doubleText Decimal.jsonStyle x

mutual

/-- The compact text of a value. -/
def text : Json → List Char
  | .null => ['n', 'u', 'l', 'l']
  | .bool true => ['t', 'r', 'u', 'e']
  | .bool false => ['f', 'a', 'l', 's', 'e']
  | .number n => n.text
  | .string s => quoted s
  | .array items => '[' :: (itemsText items ++ [']'])
  | .object fields => '\x7b' :: (fieldsText fields ++ ['\x7d'])

/-- Values with commas between them. -/
def itemsText : List Json → List Char
  | [] => []
  | [item] => text item
  | item :: rest => text item ++ ',' :: itemsText rest

/-- Named values with commas between them. -/
def fieldsText : List (String × Json) → List Char
  | [] => []
  | [(name, value)] => quoted name ++ ':' :: text value
  | (name, value) :: rest => quoted name ++ ':' :: text value ++ ',' :: fieldsText rest

end

/-- The compact text of a value. -/
def compact (j : Json) : String := String.ofList j.text

end LogFilter.Json
