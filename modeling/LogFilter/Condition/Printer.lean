import LogFilter.Condition.Expr
import LogFilter.Text.Split

/-!
# The canonical form of conditions

Every compound expression stands in parentheses, so no operator binds another's operand. Strings
stand in quotes and double those in them.
-/

namespace LogFilter

/-- A text in quotes. -/
def quotedText (s : String) : List Char := '\'' :: (Text.doubleQuotes s.toList ++ ['\''])

/-- A value as it is written in a condition. -/
def Value.literalText : Value → List Char
  | null => "null".toList
  | string s => quotedText s
  | level l => "loglevel.".toList ++ l.name.toList
  | v => v.text.toList

namespace Expr

mutual

/-- The canonical form as characters. -/
def render : Expr → List Char
  | literal v => v.literalText
  | layout l => quotedText l.template
  | level => "level".toList
  | logger => "logger".toList
  | message => "message".toList
  | exception => "exception".toList
  | call name arguments _ => name.toList ++ '(' :: (renderAll arguments ++ [')'])
  | not a => "(not ".toList ++ a.render ++ [')']
  | and a b => '(' :: (a.render ++ " and ".toList ++ b.render ++ [')'])
  | or a b => '(' :: (a.render ++ " or ".toList ++ b.render ++ [')'])
  | relation r a b => '(' :: (a.render ++ ' ' :: (r.symbol.toList ++ ' ' :: (b.render ++ [')'])))

/-- Canonical forms with a comma and a space between them. -/
def renderAll : List Expr → List Char
  | [] => []
  | [a] => a.render
  | a :: as => a.render ++ ',' :: ' ' :: renderAll as

end

/-- The canonical form. -/
def text (e : Expr) : String := String.ofList e.render

end Expr

end LogFilter
