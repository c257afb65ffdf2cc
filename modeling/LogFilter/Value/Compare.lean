import LogFilter.Value.Convert

/-!
# Comparing values

Null comes before every other value. Values of one kind are compared in it; before that, values of
different kinds are brought to one of their kinds by a conversion. Kinds have a rank, and the value
of the later kind is converted if that is possible, else the other one.

Exceptions can only be told apart, not ordered.
-/

namespace LogFilter

/-- The operators that compare two values. -/
inductive Relation
  | equal | notEqual | less | greater | lessOrEqual | greaterOrEqual
  deriving DecidableEq, Repr

namespace Relation

def symbol : Relation → String
  | equal => "=="
  | notEqual => "!="
  | less => "<"
  | greater => ">"
  | lessOrEqual => "<="
  | greaterOrEqual => ">="

/-- Whether operands that stand in an order satisfy the operator. -/
def holds : Relation → Ordering → Bool
  | equal, o => o == .eq
  | notEqual, o => o != .eq
  | less, o => o == .lt
  | greater, o => o == .gt
  | lessOrEqual, o => o != .gt
  | greaterOrEqual, o => o != .lt

end Relation

/-- Why two values were not compared. -/
inductive CompareError
  | noCommonKind (left right : Kind)
  | notOrdered (kind : Kind) (relation : Relation)
  deriving DecidableEq, Repr

def CompareError.message : CompareError → String
  | noCommonKind left right =>
    "Cannot find common type for '" ++ left.name ++ "' and '" ++ right.name ++ "'."
  | notOrdered kind relation =>
    "Values of type '" ++ kind.name ++ "' do not support the '" ++ relation.symbol ++ "' operator"

/-- The rank of a kind that takes part in conversions; the others come after all of them. -/
def Kind.rank? : Kind → Option Nat
  | .date => some 0
  | .float => some 1
  | .int => some 2
  | .bool => some 3
  | .level => some 4
  | .string => some 5
  | .null | .exception => none

/-- Whether a kind comes before another by rank. -/
def Kind.precedes (a b : Kind) : Bool :=
  match a.rank?, b.rank? with
  | some m, some n => m < n
  | some _, none => true
  | none, _ => false

namespace Value

/-- Both values, of which the right one has become one of the left one's kind. -/
def convertRight? (left right : Value) : Option (Value × Value) :=
  (right.convert? left.kind).map (left, ·)

/-- Both values, of which the left one has become one of the right one's kind. -/
def convertLeft? (left right : Value) : Option (Value × Value) :=
  (left.convert? right.kind).map (·, right)

/-- Both values, brought to a common kind. -/
def promote (left right : Value) : Except CompareError (Value × Value) :=
  if left.kind = right.kind then .ok (left, right)
  else
    let promoted :=
      if left.kind.precedes right.kind then convertRight? left right <|> convertLeft? left right
      else convertLeft? left right <|> convertRight? left right
    match promoted with
    | some values => .ok values
    | none => .error (.noCommonKind left.kind right.kind)

/-- The order of two values of one kind. Values of different kinds have none, nor have nulls and
exceptions. -/
def order? : Value → Value → Option Ordering
  | bool a, bool b => some (compare a b)
  | int a, int b => some (compare a.toInt b.toInt)
  | float a, float b => some (Decimal.compareDoubles a b)
  | string a, string b => some (compare a b)
  | date a, date b => some (DateTime.compare a b)
  | level a, level b => some (compare a.ordinal b.ordinal)
  | _, _ => none

/-- Compares two values of one kind. -/
def compareSameKind (relation : Relation) (left right : Value) : Except CompareError Bool :=
  match left, right with
  | exception a, exception b =>
    match relation with
    | .equal => .ok (a == b)
    | .notEqual => .ok (a != b)
    | _ => .error (.notOrdered .exception relation)
  | _, _ =>
    match order? left right with
    | some o => .ok (relation.holds o)
    | none => .error (.noCommonKind left.kind right.kind)

/-- Whether two values satisfy an operator. -/
def satisfies (relation : Relation) (left right : Value) : Except CompareError Bool :=
  match left, right with
  | null, null => .ok (relation.holds .eq)
  | null, _ => .ok (relation.holds .lt)
  | _, null => .ok (relation.holds .gt)
  | _, _ => do
    let (l, r) ← promote left right
    compareSameKind relation l r

end Value

end LogFilter
