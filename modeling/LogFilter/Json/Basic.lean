/-!
# JSON values

Objects are kept as fields in increasing order of their names, each name once, so two objects with
the same fields are the same value however they were written.
-/

namespace LogFilter

/-- A number as its text gives it: whole numbers between `-2 ^ 63` and `2 ^ 64` are exact. -/
inductive Json.Number
  | int (i : Int)
  | double (x : Float)

inductive Json
  | null
  | bool (b : Bool)
  | number (n : Json.Number)
  | string (s : String)
  | array (items : List Json)
  | object (fields : List (String × Json))

namespace Json

/-- Named values in increasing order of their names. -/
abbrev Fields := List (String × Json)

/-- The fields with one more; a value of the same name is replaced. -/
def Fields.insert (name : String) (value : Json) : Fields → Fields
  | [] => [(name, value)]
  | (n, v) :: rest =>
    match compare name n with
    | .lt => (name, value) :: (n, v) :: rest
    | .eq => (name, value) :: rest
    | .gt => (n, v) :: Fields.insert name value rest

/-- The value of a name. -/
def Fields.find? (name : String) : Fields → Option Json
  | [] => none
  | (n, v) :: rest => if n = name then some v else Fields.find? name rest

theorem Fields.find?_insert_self (name : String) (value : Json) (fields : Fields) :
    (fields.insert name value).find? name = some value := by
  induction fields with
  | nil => simp [insert, find?]
  | cons p rest ih =>
    obtain ⟨n, v⟩ := p
    simp only [insert]
    split
    next => simp [find?]
    next => simp [find?]
    next h =>
      have hne : n ≠ name := by
        rintro rfl
        simp at h
      simp [find?, hne, ih]

end Json

end LogFilter
