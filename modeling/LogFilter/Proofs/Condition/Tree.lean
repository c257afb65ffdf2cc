import LogFilter.Condition.Expr

/-!
# Trees of expressions

The expressions inside of an expression, induction over them, and properties that hold at every
node. A call has any number of arguments, so the induction that comes with the type is about lists
too; `Expr.induction` has one case, with a hypothesis for each child.
-/

namespace LogFilter.Expr

/-- The expressions directly inside of an expression. -/
def children : Expr → List Expr
  | call _ arguments _ => arguments
  | not a => [a]
  | and a b | or a b | relation _ a b => [a, b]
  | _ => []

theorem sizeOf_lt_of_mem_children {c e : Expr} (h : c ∈ e.children) : sizeOf c < sizeOf e := by
  cases e with
  | call name arguments method =>
    have hlt : sizeOf c < sizeOf arguments := List.sizeOf_lt_of_mem h
    simp only [call.sizeOf_spec]
    omega
  | not a =>
    obtain rfl : c = a := by simpa [children] using h
    simp
  | and a b | or a b | relation _ a b =>
    obtain rfl | rfl : c = a ∨ c = b := by simpa [children] using h
    · simp only [and.sizeOf_spec, or.sizeOf_spec, relation.sizeOf_spec]
      omega
    · simp only [and.sizeOf_spec, or.sizeOf_spec, relation.sizeOf_spec]
      omega
  | _ => exact absurd h (by simp [children])

/-- Induction over trees: a property that goes from the children to their parent holds of all. -/
theorem induction {motive : Expr → Prop}
    (step : ∀ e, (∀ c ∈ e.children, motive c) → motive e) (e : Expr) : motive e :=
  step e fun c _ => induction step c
termination_by sizeOf e
decreasing_by exact sizeOf_lt_of_mem_children ‹_›

/-- A property holds of an expression and of all expressions inside of it. -/
inductive All (P : Expr → Prop) : Expr → Prop
  | intro {e : Expr} (here : P e) (inside : ∀ c ∈ e.children, All P c) : All P e

variable {P Q : Expr → Prop} {e : Expr}

theorem all_iff : e.All P ↔ P e ∧ ∀ c ∈ e.children, c.All P := by
  constructor
  · rintro ⟨h, hc⟩
    exact ⟨h, hc⟩
  · rintro ⟨h, hc⟩
    exact ⟨h, hc⟩

theorem All.here (h : e.All P) : P e := (all_iff.1 h).1

theorem All.inside (h : e.All P) {c : Expr} (hc : c ∈ e.children) : c.All P := (all_iff.1 h).2 c hc

theorem All.mono (h : e.All P) (hPQ : ∀ e, P e → Q e) : e.All Q := by
  induction h with
  | intro here _ ih => exact ⟨hPQ _ here, ih⟩

theorem All.and (hP : e.All P) (hQ : e.All Q) : e.All fun e => P e ∧ Q e := by
  induction hP with
  | intro here _ ih => exact ⟨⟨here, hQ.here⟩, fun c hc => ih c hc (hQ.inside hc)⟩

theorem all_leaf (h : e.children = []) : e.All P ↔ P e := by
  simp [all_iff (e := e), h]

theorem all_one {a : Expr} (h : e.children = [a]) : e.All P ↔ P e ∧ a.All P := by
  simp [all_iff (e := e), h]

theorem all_two {a b : Expr} (h : e.children = [a, b]) :
    e.All P ↔ P e ∧ a.All P ∧ b.All P := by
  simp [all_iff (e := e), h]

end LogFilter.Expr
