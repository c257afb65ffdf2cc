import Mathlib.Data.List.TakeWhile
import LogFilter.Text.Blank

/-!
# Runs of characters

Where a run of characters ends in a text: at the first one that does not satisfy a test.
-/

namespace LogFilter

open Text

/-- The first character, if there is one, does not satisfy a test. -/
def Stops (p : Char → Bool) (s : List Char) : Prop := ∀ c ∈ s.head?, p c = false

theorem stops_cons {p : Char → Bool} {c : Char} (hc : p c = false) (rest : List Char) :
    Stops p (c :: rest) := by
  simpa [Stops] using hc

theorem stops_append {p : Char → Bool} {s : List Char} (hne : s ≠ [])
    (hs : ∀ c ∈ s, p c = false) (rest : List Char) : Stops p (s ++ rest) := by
  obtain ⟨c, r, rfl⟩ := List.exists_cons_of_ne_nil hne
  exact stops_cons (hs c List.mem_cons_self) _

theorem takeWhile_append_of_stops {p : Char → Bool} {s rest : List Char} (hs : ∀ c ∈ s, p c = true)
    (hr : Stops p rest) : (s ++ rest).takeWhile p = s := by
  rw [List.takeWhile_append_of_pos hs]
  cases rest with
  | nil => simp
  | cons c r => simp [hr c (by simp)]

theorem dropWhile_append_of_stops {p : Char → Bool} {s rest : List Char} (hs : ∀ c ∈ s, p c = true)
    (hr : Stops p rest) : (s ++ rest).dropWhile p = rest := by
  rw [List.dropWhile_append_of_pos hs]
  cases rest with
  | nil => rfl
  | cons c r => simp [hr c (by simp)]

/-- A run that ends before or at the end of a text does not go on in what follows. -/
theorem takeWhile_append_of_stops_right {p : Char → Bool} {rest : List Char} (hr : Stops p rest)
    (s : List Char) : (s ++ rest).takeWhile p = s.takeWhile p := by
  induction s with
  | nil => simpa using takeWhile_append_of_stops (List.forall_mem_nil _) hr
  | cons c r ih => simp [List.takeWhile_cons, ih]

theorem dropWhile_append_of_stops_right {p : Char → Bool} {rest : List Char} (hr : Stops p rest)
    (s : List Char) : (s ++ rest).dropWhile p = s.dropWhile p ++ rest := by
  induction s with
  | nil => simpa using dropWhile_append_of_stops (List.forall_mem_nil _) hr
  | cons c r ih =>
    rw [List.cons_append, List.dropWhile_cons, List.dropWhile_cons]
    by_cases hc : p c = true
    · rw [if_pos hc, if_pos hc, ih]
    · rw [if_neg hc, if_neg hc, List.cons_append]

theorem forall_mem_takeWhile {p : Char → Bool} {s : List Char} :
    ∀ c ∈ s.takeWhile p, p c = true := List.all_eq_true.1 List.all_takeWhile

theorem stops_dropWhile (p : Char → Bool) (s : List Char) : Stops p (s.dropWhile p) := by
  intro c hc
  have hne : s.dropWhile p ≠ [] := List.ne_nil_of_mem (List.mem_of_mem_head? hc)
  have hnot := List.head_dropWhile_not p hne
  rw [List.head?_eq_some_head hne, Option.mem_some_iff] at hc
  rwa [hc] at hnot

/-! ## Blanks at the ends -/

namespace Text

theorem trimStart_of_stops {s : List Char} (h : Stops isBlank s) : trimStart s = s := by
  simpa [trimStart] using dropWhile_append_of_stops (List.forall_mem_nil _) h

/-- A text that neither begins nor ends with a blank is left as it is. -/
theorem trim_of_stops {s : List Char} (hstart : Stops isBlank s)
    (hend : Stops isBlank s.reverse) : trim s = s := by
  have hreverse : s.reverse.dropWhile isBlank = s.reverse := trimStart_of_stops hend
  rw [trim, trimStart_of_stops hstart, trimEnd, hreverse, List.reverse_reverse]

theorem trim_of_not_blank {s : List Char} (h : ∀ c ∈ s, isBlank c = false) : trim s = s := by
  refine trim_of_stops (fun c hc => h c (List.mem_of_mem_head? hc)) fun c hc => ?_
  exact h c (List.mem_reverse.1 (List.mem_of_mem_head? hc))

theorem trimStart_blanks {blanks : List Char} (h : ∀ c ∈ blanks, isBlank c = true) :
    trimStart blanks = [] := by
  rw [trimStart, List.dropWhile_eq_nil_iff]
  exact h

/-- Blanks around a text are taken away. -/
theorem trim_append {before s after : List Char} (hb : ∀ c ∈ before, isBlank c = true)
    (hne : s ≠ []) (hstart : Stops isBlank s) (hend : Stops isBlank s.reverse)
    (ha : ∀ c ∈ after, isBlank c = true) : trim (before ++ (s ++ after)) = s := by
  have hstops : Stops isBlank (s ++ after) := by
    obtain ⟨c, r, rfl⟩ := List.exists_cons_of_ne_nil hne
    exact stops_cons (hstart c rfl) _
  have hleft : trimStart (before ++ (s ++ after)) = s ++ after :=
    dropWhile_append_of_stops hb hstops
  have hright : (after.reverse ++ s.reverse).dropWhile isBlank = s.reverse :=
    dropWhile_append_of_stops (fun c hc => ha c (List.mem_reverse.1 hc)) hend
  rw [trim, hleft, trimEnd, List.reverse_append, hright, List.reverse_reverse]

/-- What trimming takes away are blanks, and what it leaves neither begins nor ends with one. -/
theorem exists_trim (s : List Char) :
    ∃ before after, s = before ++ (trim s ++ after) ∧ (∀ c ∈ before, isBlank c = true) ∧
      (∀ c ∈ after, isBlank c = true) ∧ Stops isBlank (trim s) ∧
      Stops isBlank (trim s).reverse := by
  have hends : trimStart s = trim s ++ ((trimStart s).reverse.takeWhile isBlank).reverse := by
    rw [trim, trimEnd, ← List.reverse_append, List.takeWhile_append_dropWhile,
      List.reverse_reverse]
  refine ⟨s.takeWhile isBlank, ((trimStart s).reverse.takeWhile isBlank).reverse, ?_, ?_, ?_, ?_,
    ?_⟩
  · rw [← hends]
    exact List.takeWhile_append_dropWhile.symm
  · exact forall_mem_takeWhile
  · intro c hc
    exact forall_mem_takeWhile c (List.mem_reverse.1 hc)
  · intro c hc
    have hhead : c ∈ (trimStart s).head? := by
      rw [hends, List.head?_append, hc]
      rfl
    exact stops_dropWhile isBlank s c hhead
  · rw [trim, trimEnd, List.reverse_reverse]
    exact stops_dropWhile isBlank _

end Text

/-! ## Digits and blanks -/

/-- The code points of the blanks. -/
def blankCodes : List Nat :=
  List.range' 9 5 ++ List.range' 0x2000 11 ++
    [0x20, 0x85, 0xA0, 0x1680, 0x2028, 0x2029, 0x202F, 0x205F, 0x3000]

theorem toNat_mem_blankCodes {c : Char} (h : isBlank c = true) : c.toNat ∈ blankCodes := by
  simp only [isBlank, Bool.or_eq_true, Bool.and_eq_true, decide_eq_true_eq, beq_iff_eq] at h
  simp only [blankCodes, List.mem_append, List.mem_range'_1, List.mem_cons, List.not_mem_nil,
    or_false]
  grind

theorem toNat_mem_of_isDigit {c : Char} (h : c.isDigit = true) : c.toNat ∈ List.range' 48 10 := by
  simp only [Char.isDigit, Bool.and_eq_true, decide_eq_true_eq, UInt32.le_iff_toNat_le] at h
  have h0 : '0'.val.toNat = 48 := rfl
  have h9 : '9'.val.toNat = 57 := rfl
  have hc : c.toNat = c.val.toNat := rfl
  rw [List.mem_range'_1]
  omega

theorem not_isBlank_of_isDigit {c : Char} (h : c.isDigit = true) : isBlank c = false := by
  have hall : ∀ n ∈ List.range' 48 10, isBlank (Char.ofNat n) = false := by decide +kernel
  have := hall c.toNat (toNat_mem_of_isDigit h)
  rwa [Char.ofNat_toNat] at this

end LogFilter
