import LogFilter.Layout.Basic
import LogFilter.Method.Basic
import LogFilter.Value.Compare

/-!
# Expressions

Conditions as trees, and when two of them count as the same: layouts by their template and calls by
name and arguments, whatever they do.
-/

namespace LogFilter

/-- A condition or a part of one. -/
inductive Expr
  | literal (value : Value)
  /-- A string that is made anew for each event. -/
  | layout (layout : Layout)
  | level
  | logger
  | message
  | exception
  /-- A call with the method that its name stands for. -/
  | call (name : String) (arguments : List Expr) (method : Method)
  | not (inner : Expr)
  | and (left right : Expr)
  | or (left right : Expr)
  | relation (relation : Relation) (left right : Expr)

namespace Expr

mutual

/-- Whether two expressions are the same. -/
def same : Expr → Expr → Bool
  | literal a, literal b => a.same b
  | layout a, layout b => a.template == b.template
  | level, level => true
  | logger, logger => true
  | message, message => true
  | exception, exception => true
  | call m as _, call n bs _ => m == n && sameAll as bs
  | not a, not b => a.same b
  | and a b, and c d => a.same c && b.same d
  | or a b, or c d => a.same c && b.same d
  | relation r a b, relation s c d => r == s && a.same c && b.same d
  | _, _ => false

/-- Whether two lists hold the same expressions in the same order. -/
def sameAll : List Expr → List Expr → Bool
  | [], [] => true
  | a :: as, b :: bs => a.same b && sameAll as bs
  | _, _ => false

end

end Expr

end LogFilter
