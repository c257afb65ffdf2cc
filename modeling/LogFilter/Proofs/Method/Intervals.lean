import LogFilter.Proofs.Method.Registrations

/-!
# Joining intervals

The accepted numbers of arguments are told as intervals: those of the single methods in increasing
order, joined from left to right where they meet or touch.

* Joined intervals are separate, with a number left out between any two, and cover what the given
  ones cover: `areSeparate_joined`. They are told by the numbers they cover: `AreSeparate.ext`.
* This is so if every number has a next one. Of words of 64 bits the last one has none. The ends of
  which the next number is asked for are `endsStepped`, and there is an answer, and the same one,
  exactly if none of them is the last word: `foldlM_joinInto_eq_some_iff`.
* The last word is stepped over exactly if an interval that ends there is followed by another one:
  `exists_step_past_iff`.
-/

namespace LogFilter.Overloads

/-! ## Sets of intervals -/

/-- A number lies in one of the intervals. -/
def Covers (intervals : List (Nat × Nat)) (n : Nat) : Prop :=
  ∃ i ∈ intervals, i.1 ≤ n ∧ n ≤ i.2

/-- Intervals in increasing order, none of them empty, with a number left out between any two. -/
structure AreSeparate (intervals : List (Nat × Nat)) : Prop where
  nonempty : ∀ i ∈ intervals, i.1 ≤ i.2
  apart : intervals.Pairwise fun i j => i.2 + 1 < j.1

theorem not_covers_nil (n : Nat) : ¬Covers [] n := by
  rintro ⟨i, hi, _⟩
  exact absurd hi (by simp)

theorem covers_cons {i : Nat × Nat} {intervals : List (Nat × Nat)} {n : Nat} :
    Covers (i :: intervals) n ↔ (i.1 ≤ n ∧ n ≤ i.2) ∨ Covers intervals n := by
  simp [Covers]

theorem covers_singleton {i : Nat × Nat} {n : Nat} : Covers [i] n ↔ i.1 ≤ n ∧ n ≤ i.2 :=
  covers_cons.trans (or_iff_left (not_covers_nil n))

theorem covers_reverse {intervals : List (Nat × Nat)} {n : Nat} :
    Covers intervals.reverse n ↔ Covers intervals n := by
  simp [Covers]

namespace AreSeparate

variable {i j : Nat × Nat} {r s : List (Nat × Nat)}

theorem nil : AreSeparate [] where
  nonempty := by simp
  apart := .nil

theorem singleton (h : i.1 ≤ i.2) : AreSeparate [i] where
  nonempty := fun j hj => by rwa [List.mem_singleton.1 hj]
  apart := List.pairwise_singleton _ _

theorem head (h : AreSeparate (i :: r)) : i.1 ≤ i.2 := h.nonempty i List.mem_cons_self

theorem tail (h : AreSeparate (i :: r)) : AreSeparate r where
  nonempty := fun j hj => h.nonempty j (List.mem_cons_of_mem i hj)
  apart := h.apart.of_cons

/-- What later intervals cover is apart from the first one. -/
theorem lt_of_covers (h : AreSeparate (i :: r)) {n : Nat} (hn : Covers r n) : i.2 + 1 < n := by
  obtain ⟨j, hj, hfirst, _⟩ := hn
  exact Nat.lt_of_lt_of_le (List.rel_of_pairwise_cons h.apart hj) hfirst

/-- The first number that is covered starts the first interval. -/
theorem first_le (hi : AreSeparate (i :: r)) (hj : AreSeparate (j :: s))
    (h : ∀ n, Covers (i :: r) n → Covers (j :: s) n) : j.1 ≤ i.1 := by
  have hhead := hj.head
  rcases covers_cons.1 (h i.1 (covers_cons.2 (.inl ⟨le_rfl, hi.head⟩))) with hfirst | htail
  · exact hfirst.1
  · have hlt := hj.lt_of_covers htail
    omega

/-- An interval that starts where another one does ends no later, because the number after the other
one is not covered. -/
theorem last_le (hj : AreSeparate (j :: s)) (hfirst : i.1 = j.1)
    (h : ∀ n, Covers (i :: r) n → Covers (j :: s) n) : i.2 ≤ j.2 := by
  by_contra hlast
  have hhead := hj.head
  have hnext : Covers (i :: r) (j.2 + 1) := covers_cons.2 (.inl ⟨by omega, by omega⟩)
  rcases covers_cons.1 (h _ hnext) with hin | htail
  · omega
  · exact absurd (hj.lt_of_covers htail) (lt_irrefl _)

theorem covers_tail (hi : AreSeparate (i :: r)) (hij : i = j)
    (h : ∀ n, Covers (i :: r) n → Covers (j :: s) n) {n : Nat} (hn : Covers r n) : Covers s n := by
  have hlt := hi.lt_of_covers hn
  rcases covers_cons.1 (h n (covers_cons.2 (.inr hn))) with hin | htail
  · rw [← hij] at hin
    omega
  · exact htail

/-- **Separate intervals are told by the numbers they cover.** -/
theorem ext (hr : AreSeparate r) (hs : AreSeparate s) (h : ∀ n, Covers r n ↔ Covers s n) :
    r = s := by
  induction r generalizing s with
  | nil =>
    cases s with
    | nil => rfl
    | cons j s =>
      have hj : Covers (j :: s) j.1 := covers_cons.2 (.inl ⟨le_rfl, hs.head⟩)
      exact absurd ((h _).2 hj) (not_covers_nil _)
  | cons i r ih =>
    cases s with
    | nil =>
      have hi : Covers (i :: r) i.1 := covers_cons.2 (.inl ⟨le_rfl, hr.head⟩)
      exact absurd ((h _).1 hi) (not_covers_nil _)
    | cons j s =>
      -- the first intervals have the same ends, and so the rest covers the same
      have hto := fun n => (h n).1
      have hback := fun n => (h n).2
      have hfirst : i.1 = j.1 := Nat.le_antisymm (first_le hs hr hback) (first_le hr hs hto)
      have hlast : i.2 = j.2 :=
        Nat.le_antisymm (last_le hs hfirst hto) (last_le hr hfirst.symm hback)
      have hij : i = j := Prod.ext hfirst hlast
      have htails : r = s := ih hr.tail hs.tail fun n =>
        ⟨covers_tail hr hij hto, covers_tail hs hij.symm hback⟩
      rw [hij, htails]

/-- One interval in front of the last ones that were joined. -/
theorem reverse_cons_iff : AreSeparate (i :: r).reverse ↔
    i.1 ≤ i.2 ∧ (∀ j ∈ r, j.2 + 1 < i.1) ∧ AreSeparate r.reverse := by
  constructor
  · intro h
    have hpairs := List.pairwise_cons.1 (List.pairwise_reverse.1 h.apart)
    refine ⟨h.nonempty i (by simp), hpairs.1, fun j hj => h.nonempty j ?_, ?_⟩
    · simpa using Or.inl (List.mem_reverse.1 hj)
    · exact List.pairwise_reverse.2 hpairs.2
  · rintro ⟨hi, hr, h⟩
    refine ⟨fun j hj => ?_, ?_⟩
    · rcases List.mem_cons.1 (List.mem_reverse.1 hj) with rfl | hj
      · exact hi
      · exact h.nonempty j (List.mem_reverse.2 hj)
    · exact List.pairwise_reverse.2 (List.pairwise_cons.2 ⟨hr, List.pairwise_reverse.1 h.apart⟩)

end AreSeparate

/-! ## Joining with and without a last word -/

/-- Intervals joined with one more, where every number has a next one. -/
def join (joined : List (Nat × Nat)) (interval : Nat × Nat) : List (Nat × Nat) :=
  match joined with
  | (first, last) :: rest =>
    if interval.1 ≤ last + 1 then (first, max last interval.2) :: rest
    else interval :: joined
  | [] => [interval]

/-- The ends of which the next number is asked for while intervals are joined, in their order. -/
def endsStepped : List (Nat × Nat) → List (Nat × Nat) → List Nat
  | _, [] => []
  | joined, interval :: later =>
    (joined.head?.map Prod.snd).toList ++ endsStepped (join joined interval) later

variable {joined intervals answer : List (Nat × Nat)} {i j : Nat × Nat}

/-- A step asks for the number after the end that was joined last, if there is one. -/
theorem joinInto_eq_some_iff : joinInto joined i = some answer ↔
    (∀ last ∈ (joined.head?.map Prod.snd).toList, last + 1 < wordSize) ∧
      join joined i = answer := by
  cases joined with
  | nil => simp [joinInto, join]
  | cons head rest =>
    by_cases h : head.2 + 1 < wordSize
    · simp [joinInto, join, next?, h]
    · simp [joinInto, next?, h]

/-- **Joining has an answer exactly if all numbers that are asked for are words**, and then it is
the one that there is without a last word. -/
theorem foldlM_joinInto_eq_some_iff : intervals.foldlM joinInto joined = some answer ↔
    (∀ last ∈ endsStepped joined intervals, last + 1 < wordSize) ∧
      intervals.foldl join joined = answer := by
  induction intervals generalizing joined with
  | nil => simp [endsStepped]
  | cons i later ih =>
    rw [List.foldlM_cons, Option.bind_eq_bind, Option.bind_eq_some_iff]
    simp only [joinInto_eq_some_iff, ih, endsStepped, List.forall_mem_append, List.foldl_cons]
    constructor
    · rintro ⟨_, ⟨hhead, rfl⟩, hlater, hjoin⟩
      exact ⟨⟨hhead, hlater⟩, hjoin⟩
    · rintro ⟨⟨hhead, hlater⟩, hjoin⟩
      exact ⟨_, ⟨hhead, rfl⟩, hlater, hjoin⟩

/-! ## The ends of joined intervals -/

/-- Joined intervals are the given ones, but for one that may reach further. -/
theorem of_mem_join (h : j ∈ join joined i) :
    j = i ∨ j ∈ joined ∨ ∃ k ∈ joined, j = (k.1, max k.2 i.2) := by
  cases joined with
  | nil => exact .inl (List.mem_singleton.1 h)
  | cons head rest =>
    rw [join] at h
    split at h
    · rcases List.mem_cons.1 h with rfl | hj
      · exact .inr (.inr ⟨head, List.mem_cons_self, rfl⟩)
      · exact .inr (.inl (List.mem_cons_of_mem _ hj))
    · exact (List.mem_cons.1 h).imp_right .inl

/-- Joining makes no new starts. -/
theorem first_of_mem_join (h : j ∈ join joined i) :
    j.1 = i.1 ∨ ∃ k ∈ joined, j.1 = k.1 := by
  rcases of_mem_join h with rfl | hj | ⟨k, hk, rfl⟩
  · exact .inl rfl
  · exact .inr ⟨j, hj, rfl⟩
  · exact .inr ⟨k, hk, rfl⟩

/-- Joining makes no new ends. -/
theorem last_of_mem_join (h : j ∈ join joined i) :
    j.2 = i.2 ∨ ∃ k ∈ joined, j.2 = k.2 := by
  rcases of_mem_join h with rfl | hj | ⟨k, hk, rfl⟩
  · exact .inl rfl
  · exact .inr ⟨j, hj, rfl⟩
  · rcases max_choice k.2 i.2 with hmax | hmax
    · exact .inr ⟨k, hk, hmax⟩
    · exact .inl hmax

/-- The interval that was joined last reaches at least as far as what was joined to it. -/
theorem exists_head_join (joined : List (Nat × Nat)) (i : Nat × Nat) :
    ∃ head rest, join joined i = head :: rest ∧ i.2 ≤ head.2 := by
  cases joined with
  | nil => exact ⟨i, [], rfl, le_rfl⟩
  | cons head rest =>
    rw [join]
    split
    · exact ⟨_, rest, rfl, le_max_right _ _⟩
    · exact ⟨i, _, rfl, le_rfl⟩

/-! ## Joining in order -/

/-- One step separates: the new interval is apart from the last one, or becomes a part of it. -/
theorem areSeparate_join (h : AreSeparate joined.reverse) (hi : i.1 ≤ i.2) :
    AreSeparate (join joined i).reverse := by
  cases joined with
  | nil => exact .singleton hi
  | cons head rest =>
    obtain ⟨hhead, hrest, hseparate⟩ := AreSeparate.reverse_cons_iff.1 h
    rw [join]
    split
    · exact AreSeparate.reverse_cons_iff.2 ⟨le_max_of_le_left hhead, hrest, hseparate⟩
    · next hnext =>
      refine AreSeparate.reverse_cons_iff.2 ⟨hi, fun j hj => ?_, h⟩
      rcases List.mem_cons.1 hj with rfl | hj
      · omega
      · have hj := hrest j hj
        omega

/-- One step covers what was covered and the new interval, if that starts no earlier. -/
theorem covers_join (h : ∀ j ∈ joined, j.1 ≤ i.1) {n : Nat} :
    Covers (join joined i) n ↔ Covers joined n ∨ i.1 ≤ n ∧ n ≤ i.2 := by
  cases joined with
  | nil => exact covers_singleton.trans (or_iff_right (not_covers_nil n)).symm
  | cons head rest =>
    have hhead : head.1 ≤ i.1 := h head List.mem_cons_self
    rw [join]
    split
    · rw [covers_cons, covers_cons, or_right_comm]
      refine or_congr_left ?_
      simp only [le_max_iff]
      omega
    · rw [covers_cons, or_comm]

/-- Many steps keep what was joined separate, and cover the new intervals too. -/
theorem foldl_join (hsorted : intervals.Pairwise fun i j => i.1 ≤ j.1)
    (hnonempty : ∀ i ∈ intervals, i.1 ≤ i.2) (hjoined : AreSeparate joined.reverse)
    (hstarts : ∀ j ∈ joined, ∀ i ∈ intervals, j.1 ≤ i.1) :
    AreSeparate (intervals.foldl (join) joined).reverse ∧
      ∀ n, Covers (intervals.foldl (join) joined) n ↔
        Covers joined n ∨ Covers intervals n := by
  induction intervals generalizing joined with
  | nil => exact ⟨hjoined, fun n => by simp [not_covers_nil]⟩
  | cons i later ih =>
    obtain ⟨hfirst, hlater⟩ := List.pairwise_cons.1 hsorted
    have hi : i.1 ≤ i.2 := hnonempty i List.mem_cons_self
    -- what was joined starts where some interval did that is done, so before all later ones
    have hnext : ∀ j ∈ join joined i, ∀ k ∈ later, j.1 ≤ k.1 := by
      intro j hj k hk
      rcases first_of_mem_join hj with hji | ⟨l, hl, hjl⟩
      · exact hji ▸ hfirst k hk
      · exact hjl ▸ hstarts l hl k (List.mem_cons_of_mem i hk)
    obtain ⟨hseparate, hcovers⟩ := ih hlater
      (fun k hk => hnonempty k (List.mem_cons_of_mem i hk)) (areSeparate_join hjoined hi) hnext
    refine ⟨hseparate, fun n => ?_⟩
    rw [List.foldl_cons, hcovers, covers_join fun j hj => hstarts j hj i List.mem_cons_self,
      covers_cons, or_assoc]

/-- **Intervals in the order of their starts are joined to separate ones** that cover the same. -/
theorem areSeparate_joined (hsorted : intervals.Pairwise fun i j => i.1 ≤ j.1)
    (hnonempty : ∀ i ∈ intervals, i.1 ≤ i.2) :
    AreSeparate (intervals.foldl (join) []).reverse ∧
      ∀ n, Covers (intervals.foldl (join) []).reverse n ↔ Covers intervals n := by
  have hnil : AreSeparate ([] : List (Nat × Nat)).reverse := .nil
  obtain ⟨hseparate, hcovers⟩ := foldl_join hsorted hnonempty hnil (by simp)
  refine ⟨hseparate, fun n => ?_⟩
  rw [covers_reverse, hcovers]
  exact or_iff_right (not_covers_nil n)

/-! ## Steps past a bound -/

/-- What is stepped over ends one of the intervals that were joined, and not as the last of them. -/
theorem exists_of_mem_endsStepped {last : Nat} (h : last ∈ endsStepped joined intervals) :
    (∃ j ∈ joined, j.2 = last) ∨
      ∃ before i after, intervals = before ++ i :: after ∧ after ≠ [] ∧ i.2 = last := by
  induction intervals generalizing joined with
  | nil => exact absurd h (by simp [endsStepped])
  | cons i later ih =>
    rcases List.mem_append.1 h with hhead | hlater
    · cases joined with
      | nil => exact absurd hhead (by simp)
      | cons head rest => exact .inl ⟨head, List.mem_cons_self, (List.mem_singleton.1 hhead).symm⟩
    · have hne : later ≠ [] := by
        rintro rfl
        exact absurd hlater (by simp [endsStepped])
      rcases ih hlater with ⟨j, hj, rfl⟩ | ⟨before, k, after, rfl, hafter, hk⟩
      · -- an end of what is joined now was there before, or is that of the new interval
        rcases last_of_mem_join hj with hji | ⟨k, hk, hjk⟩
        · exact .inr ⟨[], i, later, rfl, hne, hji.symm⟩
        · exact .inl ⟨k, hk, hjk.symm⟩
      · exact .inr ⟨i :: before, k, after, rfl, hafter, hk⟩

/-- An interval that is not the last one is stepped over, by its end or by a later one. -/
theorem exists_mem_endsStepped (joined before after : List (Nat × Nat))
    (i : Nat × Nat) (h : after ≠ []) :
    ∃ last ∈ endsStepped joined (before ++ i :: after), i.2 ≤ last := by
  induction before generalizing joined with
  | nil =>
    obtain ⟨k, later, rfl⟩ := List.exists_cons_of_ne_nil h
    obtain ⟨head, rest, hjoin, hle⟩ := exists_head_join joined i
    refine ⟨head.2, List.mem_append_right _ ?_, hle⟩
    rw [hjoin]
    exact List.mem_append_left _ (by simp)
  | cons j before ih =>
    obtain ⟨last, hlast, hle⟩ := ih (join joined j)
    exact ⟨last, List.mem_append_right _ hlast, hle⟩

/-- **A bound is stepped over** exactly if an interval that reaches it is followed by another. -/
theorem exists_step_past_iff {bound : Nat} :
    (∃ last ∈ endsStepped [] intervals, bound ≤ last) ↔
      ∃ before i after, intervals = before ++ i :: after ∧ after ≠ [] ∧ bound ≤ i.2 := by
  constructor
  · rintro ⟨last, hlast, hbound⟩
    rcases exists_of_mem_endsStepped hlast with ⟨j, hj, _⟩ | ⟨before, i, after, hsplit, hafter, rfl⟩
    · exact absurd hj (by simp)
    · exact ⟨before, i, after, hsplit, hafter, hbound⟩
  · rintro ⟨before, i, after, rfl, hafter, hi⟩
    obtain ⟨last, hlast, hle⟩ := exists_mem_endsStepped [] before after i hafter
    exact ⟨last, hlast, hi.trans hle⟩

end LogFilter.Overloads
