import Mathlib.Data.List.Basic

/-!
# The first member of a list that fails

Loops that stop at the first member that fails a test tell of it by its place. Here that place is
said for a list of which the first member is known, and for a list that begins with members that all
pass.
-/

namespace LogFilter

variable {α : Type} {passes : α → Prop} {x y : α} {xs ys : List α} {i : Nat}

/-- The member at a place, counted from zero, fails a test that all members before it pass. -/
structure FailsFirst (passes : α → Prop) (xs : List α) (i : Nat) (x : α) : Prop where
  get_eq : xs[i]? = some x
  fails : ¬passes x
  before : ∀ j < i, ∀ y, xs[j]? = some y → passes y

theorem not_failsFirst_nil : ¬FailsFirst passes [] i x :=
  fun h => absurd h.get_eq (by simp)

theorem failsFirst_cons_of_not (hx : ¬passes x) :
    FailsFirst passes (x :: xs) i y ↔ i = 0 ∧ y = x := by
  constructor
  · intro h
    cases i with
    | zero => exact ⟨rfl, by simpa [eq_comm] using h.get_eq⟩
    | succ i => exact absurd (h.before 0 (Nat.succ_pos i) x rfl) hx
  · rintro ⟨rfl, rfl⟩
    exact ⟨rfl, hx, fun j hj => absurd hj (Nat.not_lt_zero j)⟩

theorem failsFirst_cons_of_passes (hx : passes x) :
    FailsFirst passes (x :: xs) i y ↔ ∃ j, i = j + 1 ∧ FailsFirst passes xs j y := by
  constructor
  · intro h
    cases i with
    | zero =>
      obtain rfl : x = y := by simpa using h.get_eq
      exact absurd hx h.fails
    | succ i =>
      refine ⟨i, rfl, h.get_eq, h.fails, fun j hj z hz => ?_⟩
      exact h.before (j + 1) (Nat.succ_lt_succ hj) z hz
  · rintro ⟨i, rfl, hget, hfails, hbefore⟩
    refine ⟨hget, hfails, fun j hj z hz => ?_⟩
    cases j with
    | zero =>
      obtain rfl : x = z := by simpa using hz
      exact hx
    | succ j => exact hbefore j (Nat.lt_of_succ_lt_succ hj) z hz

/-- What is said of the first member that fails, next to a member that fails itself. -/
theorem exists_failsFirst_cons_of_not {P : Nat → α → Prop} (hx : ¬passes x) :
    (∃ i y, FailsFirst passes (x :: xs) i y ∧ P i y) ↔ P 0 x := by
  simp only [failsFirst_cons_of_not hx]
  constructor
  · rintro ⟨_, _, ⟨rfl, rfl⟩, h⟩
    exact h
  · intro h
    exact ⟨0, x, ⟨rfl, rfl⟩, h⟩

/-- What is said of the first member that fails, behind a member that passes. -/
theorem exists_failsFirst_cons_of_passes {P : Nat → α → Prop} (hx : passes x) :
    (∃ i y, FailsFirst passes (x :: xs) i y ∧ P i y) ↔
      ∃ i y, FailsFirst passes xs i y ∧ P (i + 1) y := by
  simp only [failsFirst_cons_of_passes hx]
  constructor
  · rintro ⟨_, y, ⟨i, rfl, hfirst⟩, h⟩
    exact ⟨i, y, hfirst, h⟩
  · rintro ⟨i, y, hfirst, h⟩
    exact ⟨i + 1, y, ⟨i, rfl, hfirst⟩, h⟩

/-- What comes after the first member that fails is of no account. -/
theorem FailsFirst.append_right (h : FailsFirst passes xs i x) (ys : List α) :
    FailsFirst passes (xs ++ ys) i x := by
  have hi : i < xs.length := (List.getElem?_eq_some_iff.1 h.get_eq).1
  refine ⟨?_, h.fails, fun j hj y hy => h.before j hj y ?_⟩
  · rw [List.getElem?_append_left hi, h.get_eq]
  · rwa [List.getElem?_append_left (Nat.lt_trans hj hi)] at hy

/-- Members that pass only move the place of the first that fails. -/
theorem FailsFirst.append (h : FailsFirst passes ys i y) (hxs : ∀ x ∈ xs, passes x) :
    FailsFirst passes (xs ++ ys) (xs.length + i) y := by
  induction xs with
  | nil => simpa using h
  | cons x xs ih =>
    obtain ⟨hx, hxs⟩ := List.forall_mem_cons.1 hxs
    refine (failsFirst_cons_of_passes hx).2 ⟨xs.length + i, ?_, ih hxs⟩
    rw [List.length_cons]
    omega

end LogFilter
