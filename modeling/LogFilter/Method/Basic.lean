import LogFilter.Value.Basic

/-!
# Methods

The functions that a condition can call. A method says how many arguments it takes; a call with
another number fails before the method runs.
-/

namespace LogFilter

/-- Why a call failed. -/
inductive MethodError
  /-- The number of arguments is outside the accepted interval. -/
  | argumentCount (min max actual : Nat)
  /-- The value with this text is no truth value. -/
  | notAFlag (text : String)
  | unknownOption (name : String)
  | invalidPattern (pattern : String)
  /-- A failure of a method that is not one of the standard ones. -/
  | other (message : String)
  deriving DecidableEq, Repr

/-- The words for a number of arguments outside an interval. -/
def MethodError.countMessage (min max actual : Nat) : String :=
  "expected between " ++ toString min ++ " and " ++ toString max ++ " arguments, got "
    ++ toString actual

def MethodError.message : MethodError → String
  | argumentCount min max actual => countMessage min max actual
  | notAFlag text => "'" ++ text ++ "' is not a valid boolean flag"
  | unknownOption name => "Unknown regex option '" ++ name ++ "'"
  | invalidPattern pattern => "Invalid regex '" ++ pattern ++ "'"
  | other message => message

/-- How many arguments a method takes. -/
inductive Arity
  /-- A fixed number below four. -/
  | exact (count : Fin 4)
  /-- Any number in an interval with both ends. -/
  | between (min max : Nat)
  deriving DecidableEq, Repr

namespace Arity

/-- The interval of accepted numbers. -/
def bounds : Arity → Nat × Nat
  | exact count => (count.val, count.val)
  | between min max => (min, max)

def accepts (arity : Arity) (count : Nat) : Bool :=
  arity.bounds.1 ≤ count && count ≤ arity.bounds.2

def isVariadic : Arity → Bool
  | exact _ => false
  | between _ _ => true

end Arity

/-- A function that conditions can call. -/
structure Method where
  arity : Arity
  /-- Whether the method is given the event. -/
  usesEvent : Bool
  run : Option Event → List Value → Except MethodError Value

/-- Calls a method with values for its arguments. -/
def Method.call (method : Method) (event : Event) (arguments : List Value) :
    Except MethodError Value :=
  if method.arity.accepts arguments.length then
    method.run (if method.usesEvent then some event else none) arguments
  else
    .error (.argumentCount method.arity.bounds.1 method.arity.bounds.2 arguments.length)

end LogFilter
