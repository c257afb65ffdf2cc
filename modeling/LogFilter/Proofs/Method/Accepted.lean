import LogFilter.Proofs.Method.Intervals

/-!
# Accepted numbers of arguments

The methods of one name accept some numbers of arguments: one number each those for exactly one,
and an interval the variable one. These intervals are joined for the error of a call with another
number.

* The joined intervals are separate and cover the accepted numbers: `areSeparate_accepted?`.
* While they are joined, numbers after ends are asked for. These are words unless the variable
  method reaches the last word and there is a method for exactly some number above the variable
  method's least one: `not_staysInWords_iff`. Then nothing is answered: `accepted?_eq_none_iff`.
* What is answered is told by the joined intervals: `arityError_eq_mismatch_iff`,
  `arityError_eq_unsupported_iff` and `arityError_eq_panic_iff`.
-/

namespace LogFilter.Overloads

variable {o : Overloads} {name : String} {n min max : Nat} {accepted : List (Nat × Nat)}

/-! ## The intervals of the single methods -/

theorem exists_find?_iff : (∃ method, o.find? n = some method) ↔
    (o.slot? (.exact n)).isSome = true ∨
      ∃ method, o.slot? .variadic = some method ∧ method.arity.accepts n = true := by
  rw [← Option.isSome_iff_exists, find?_eq, Option.isSome_or, Bool.or_eq_true,
    Option.isSome_filter, Option.any_eq_true]

theorem find?_eq_none_iff : o.find? n = none ↔ o.slot? (.exact n) = none ∧
    ∀ method, o.slot? .variadic = some method → method.arity.accepts n = false := by
  rw [Option.eq_none_iff_forall_ne_some, ← not_exists, exists_find?_iff]
  simp [not_or]

/-- The interval of a method for exactly one number. -/
def IsExactInterval (o : Overloads) (i : Nat × Nat) : Prop :=
  ∃ count, (o.slot? (.exact count)).isSome = true ∧ i = (count, count)

theorem IsExactInterval.lt_four {i : Nat × Nat} (h : o.IsExactInterval i) : i.2 < 4 := by
  obtain ⟨count, hcount, rfl⟩ := h
  by_contra hlt
  simp [slot?, hlt] at hcount

theorem mem_exacts {i : Nat × Nat} :
    i ∈ ((List.finRange 4).filterMap fun c => (o.exact c).map fun _ => (c.val, c.val)) ↔
      o.IsExactInterval i := by
  constructor
  · intro h
    obtain ⟨c, _, hc⟩ := List.mem_filterMap.1 h
    obtain ⟨method, hmethod, rfl⟩ := Option.map_eq_some_iff.1 hc
    exact ⟨c.val, by simp [slot?, hmethod], rfl⟩
  · rintro ⟨count, hcount, rfl⟩
    by_cases h : count < 4
    · obtain ⟨method, hmethod⟩ := Option.isSome_iff_exists.1 hcount
      rw [slot?, dif_pos h] at hmethod
      exact List.mem_filterMap.2 ⟨⟨count, h⟩, List.mem_finRange _, by rw [hmethod]; rfl⟩
    · simp [slot?, h] at hcount

theorem mem_intervals {i : Nat × Nat} : i ∈ o.intervals ↔
    o.IsExactInterval i ∨ ∃ method, o.slot? .variadic = some method ∧ i = method.arity.bounds := by
  have hvariadic : i ∈ (o.variadic.map fun method => method.arity.bounds).toList ↔
      ∃ method, o.slot? .variadic = some method ∧ i = method.arity.bounds := by
    rw [Option.mem_toList, Option.map_eq_some_iff]
    exact exists_congr fun method => and_congr_right fun _ => eq_comm
  rw [intervals, List.mem_mergeSort, List.mem_append, mem_exacts, hvariadic]

/-- There is one interval at most that is not that of a method for exactly one number. -/
theorem pairwise_isExactInterval :
    o.intervals.Pairwise fun i j => o.IsExactInterval i ∨ o.IsExactInterval j := by
  rw [intervals, (List.mergeSort_perm _ _).pairwise_iff Or.symm, List.pairwise_append]
  refine ⟨List.pairwise_of_forall_mem_list fun i hi j _ => .inl (mem_exacts.1 hi), ?_,
    fun i hi j _ => .inl (mem_exacts.1 hi)⟩
  cases o.variadic with
  | none => exact .nil
  | some method => exact List.pairwise_singleton _ _

/-- The intervals are in the order of their starts, and of their ends if they start together. -/
theorem pairwise_intervals :
    o.intervals.Pairwise fun i j => i.1 < j.1 ∨ i.1 = j.1 ∧ i.2 ≤ j.2 := by
  refine (List.pairwise_mergeSort ?_ ?_ _).imp fun {i j} h => by simpa using h
  · intro a b c hab hbc
    simp only [Bool.or_eq_true, Bool.and_eq_true, decide_eq_true_eq, beq_iff_eq] at *
    omega
  · intro a b
    simp only [Bool.or_eq_true, Bool.and_eq_true, decide_eq_true_eq, beq_iff_eq]
    omega

theorem covers_intervals : Covers o.intervals n ↔ ∃ method, o.find? n = some method := by
  rw [exists_find?_iff]
  constructor
  · rintro ⟨i, hi, hle⟩
    rcases mem_intervals.1 hi with ⟨count, hcount, rfl⟩ | ⟨method, hmethod, rfl⟩
    · obtain rfl : count = n := Nat.le_antisymm hle.1 hle.2
      exact .inl hcount
    · exact .inr ⟨method, hmethod, Arity.accepts_iff.2 hle⟩
  · rintro (hexact | ⟨method, hmethod, haccepts⟩)
    · exact ⟨(n, n), mem_intervals.2 (.inl ⟨n, hexact, rfl⟩), le_rfl, le_rfl⟩
    · exact ⟨_, mem_intervals.2 (.inr ⟨method, hmethod, rfl⟩), Arity.accepts_iff.1 haccepts⟩

/-! ## Numbers after ends -/

/-- No number beyond the words is formed where the intervals are joined. -/
def StaysInWords (o : Overloads) : Prop :=
  ∀ last ∈ endsStepped [] o.intervals, last + 1 < wordSize

/-- While the numbers stay in words, the intervals are joined as if there were no last word. -/
theorem accepted?_eq_some_iff : o.accepted? = some accepted ↔
    o.StaysInWords ∧ (o.intervals.foldl join []).reverse = accepted := by
  rw [accepted?, Option.map_eq_some_iff]
  simp only [foldlM_joinInto_eq_some_iff]
  constructor
  · rintro ⟨_, ⟨hstays, rfl⟩, rfl⟩
    exact ⟨hstays, rfl⟩
  · rintro ⟨hstays, rfl⟩
    exact ⟨_, ⟨hstays, rfl⟩, rfl⟩

theorem accepted?_eq_none_iff : o.accepted? = none ↔ ¬o.StaysInWords := by
  rw [Option.eq_none_iff_forall_ne_some]
  simp only [ne_eq, accepted?_eq_some_iff]
  exact ⟨fun h hstays => h _ ⟨hstays, rfl⟩, fun h _ hanswer => h hanswer.1⟩

/-- The accepted numbers as intervals that are apart, if the variable method accepts a number. -/
theorem areSeparate_accepted? (h : o.accepted? = some accepted)
    (hvariadic : ∀ method, o.slot? .variadic = some method →
      method.arity.bounds.1 ≤ method.arity.bounds.2) :
    AreSeparate accepted ∧ ∀ n, Covers accepted n ↔ ∃ method, o.find? n = some method := by
  have hsorted : o.intervals.Pairwise fun i j => i.1 ≤ j.1 :=
    pairwise_intervals.imp fun {i j} hij => by omega
  have hnonempty : ∀ i ∈ o.intervals, i.1 ≤ i.2 := by
    intro i hi
    rcases mem_intervals.1 hi with ⟨count, _, rfl⟩ | ⟨method, hmethod, rfl⟩
    · exact le_rfl
    · exact hvariadic method hmethod
  obtain ⟨-, rfl⟩ := accepted?_eq_some_iff.1 h
  obtain ⟨hseparate, hcovers⟩ := areSeparate_joined hsorted hnonempty
  exact ⟨hseparate, fun n => (hcovers n).trans covers_intervals⟩

/-- An interval is followed by another one if there is one that starts later. -/
theorem exists_split_of_lt {i j : Nat × Nat} (hi : i ∈ o.intervals) (hj : j ∈ o.intervals)
    (hlt : i.1 < j.1) : ∃ before after, o.intervals = before ++ i :: after ∧ after ≠ [] := by
  obtain ⟨before, after, hsplit⟩ := List.append_of_mem hi
  refine ⟨before, after, hsplit, ?_⟩
  rintro rfl
  have hsorted := pairwise_intervals (o := o)
  rw [hsplit] at hj hsorted
  rcases List.mem_append.1 hj with hbefore | heq
  · have hle := (List.pairwise_append.1 hsorted).2.2 j hbefore i (List.mem_singleton_self i)
    omega
  · rw [List.mem_singleton.1 heq] at hlt
    exact lt_irrefl _ hlt

/-- What follows the interval of the variable method is that of a method for exactly one number. -/
theorem exists_exact_of_split {i : Nat × Nat} {before after : List (Nat × Nat)}
    (hsplit : o.intervals = before ++ i :: after) (hafter : after ≠ [])
    (hi : ¬o.IsExactInterval i) :
    ∃ n, (o.slot? (.exact n)).isSome = true ∧ n < 4 ∧ (i.1 < n ∨ i.1 = n ∧ i.2 ≤ n) := by
  obtain ⟨j, later, rfl⟩ := List.exists_cons_of_ne_nil hafter
  have hpairs := pairwise_intervals.and (pairwise_isExactInterval (o := o))
  rw [hsplit] at hpairs
  obtain ⟨horder, hexact⟩ :=
    List.rel_of_pairwise_cons (List.pairwise_append.1 hpairs).2.1 List.mem_cons_self
  have hj : o.IsExactInterval j := hexact.resolve_left hi
  have hlt : j.2 < 4 := hj.lt_four
  obtain ⟨n, hn, rfl⟩ := hj
  exact ⟨n, hn, hlt, horder⟩

/-- **The last word is stepped past exactly if** the variable method reaches it and there is a
method for exactly some number above the variable method's least one. -/
theorem not_staysInWords_iff : ¬o.StaysInWords ↔
    ∃ method, o.slot? .variadic = some method ∧ wordSize - 1 ≤ method.arity.bounds.2 ∧
      ∃ k, method.arity.bounds.1 < k ∧ (o.slot? (.exact k)).isSome = true := by
  have hstep : ¬o.StaysInWords ↔ ∃ last ∈ endsStepped [] o.intervals, wordSize - 1 ≤ last := by
    simp only [StaysInWords, not_forall, exists_prop]
    refine exists_congr fun last => and_congr_right fun _ => ?_
    rw [wordSize]
    omega
  rw [hstep, exists_step_past_iff]
  constructor
  · rintro ⟨before, i, after, hsplit, hafter, hi⟩
    -- methods for exactly one number take far less, so an end as large is the variable method's
    have hvariable : ¬o.IsExactInterval i := fun hexact => by
      have hlt := hexact.lt_four
      rw [wordSize] at hi
      omega
    obtain ⟨method, hmethod, rfl⟩ :=
      (mem_intervals.1 (by simp [hsplit])).resolve_left hvariable
    obtain ⟨k, hk, hfour, horder⟩ := exists_exact_of_split hsplit hafter hvariable
    have hless : method.arity.bounds.1 < k := by
      rw [wordSize] at hi
      omega
    exact ⟨method, hmethod, hi, k, hless, hk⟩
  · rintro ⟨method, hmethod, hlast, k, hless, hk⟩
    have hvariadic := mem_intervals.2 (.inr ⟨method, hmethod, rfl⟩)
    have hexact := mem_intervals.2 (.inl ⟨k, hk, rfl⟩)
    obtain ⟨before, after, hsplit, hafter⟩ := exists_split_of_lt hvariadic hexact hless
    exact ⟨before, _, after, hsplit, hafter, hlast⟩

/-! ## The error -/

theorem arityError_eq_mismatch_iff :
    o.arityError name n = .arityMismatch name min max n ↔ o.accepted? = some [(min, max)] := by
  unfold arityError
  split
  · next h => simp [h]
  · next h => simp [h]
  · next hmany h => simpa [h] using hmany min max

theorem arityError_eq_unsupported_iff {text : String} :
    o.arityError name n = .unsupportedArity name text n ↔
      ∃ accepted, o.accepted? = some accepted ∧ (∀ i, accepted ≠ [i]) ∧
        text = ", ".intercalate (accepted.map intervalText) := by
  unfold arityError
  split
  · next h => simp [h]
  · next h => simp [h]
  · next hmany h =>
    have hnone := fun i : Nat × Nat => hmany i.1 i.2
    simpa [h, eq_comm] using fun _ => hnone

/-- Nothing is answered if a number beyond the words is formed. -/
theorem arityError_eq_panic_iff : o.arityError name n = .panic ↔ ¬o.StaysInWords := by
  rw [← accepted?_eq_none_iff]
  unfold arityError
  split
  · next h => simp [h]
  · next h => simp [h]
  · next _ h => simp [h]

end LogFilter.Overloads
