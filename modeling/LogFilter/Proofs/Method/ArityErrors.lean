import LogFilter.Proofs.Method.Resolution

/-!
# Errors about numbers of arguments

A name that was registered accepts some numbers of arguments. A call with another number gets an
error that tells the accepted ones: the bounds of one interval, or several intervals in words.

* If the bounds of the variable method are in order and below the last word, the error is right. The
  intervals are separate and hold the accepted numbers, and bounds are told exactly if these are one
  interval: `Registry.errors_tell_accepted`.
* A variable method can also take every number up to the last word. Next to a method for exactly
  some number above its least one, the number after the last word is then formed for the error,
  which is no word, and nothing is answered: `Registry.staysInWords_iff`,
  `Registry.lastWord_stepped_past`.
-/

namespace LogFilter

namespace Registry

open Overloads (AreSeparate Covers intervalText wordSize)

/-- A name with a number of arguments resolves to a method. -/
def Accepts (registry : Registry) (name : String) (n : Nat) : Prop :=
  ∃ method, registry.resolve name n = .ok (some method)

/-- The numbers of arguments that a name accepts are those of one interval. -/
def AcceptsInterval (registry : Registry) (name : String) (min max : Nat) : Prop :=
  ∀ n, registry.Accepts name n ↔ min ≤ n ∧ n ≤ max

/-- No number beyond the words is formed when a name with a number of arguments is resolved.
Intervals are joined for an error alone. -/
def StaysInWords (registry : Registry) (name : String) (n : Nat) : Prop :=
  ∀ o, lookup? (key name) registry.entries = some o → o.find? n = none → o.StaysInWords

section

variable {registry : Registry} {name : String} {o : Overloads} {n min max : Nat}
  {accepted : List (Nat × Nat)} (ho : lookup? (key name) registry.entries = some o)

include ho

theorem accepts_iff : registry.Accepts name n ↔ ∃ method, o.find? n = some method := by
  rw [Accepts, resolve_of_lookup? ho]
  cases o.find? n <;> simp

theorem resolve_eq_error_iff {e : ResolveError} :
    registry.resolve name n = .error e ↔ ¬registry.Accepts name n ∧ o.arityError name n = e := by
  rw [accepts_iff ho, resolve_of_lookup? ho]
  cases o.find? n <;> simp

/-- The accepted numbers are one interval exactly if they are told as one. -/
theorem acceptsInterval_iff (hseparate : AreSeparate accepted)
    (hcovers : ∀ n, Covers accepted n ↔ ∃ method, o.find? n = some method)
    (hsome : ∃ n, registry.Accepts name n) :
    registry.AcceptsInterval name min max ↔ accepted = [(min, max)] := by
  have haccepts (n : Nat) : registry.Accepts name n ↔ Covers accepted n :=
    (accepts_iff ho).trans (hcovers n).symm
  constructor
  · intro h
    obtain ⟨n, hn⟩ := hsome
    obtain ⟨hmin, hmax⟩ := (h n).1 hn
    refine hseparate.ext (.singleton (hmin.trans hmax)) fun k => ?_
    rw [← haccepts, h k, Overloads.covers_singleton]
  · rintro rfl n
    rw [haccepts, Overloads.covers_singleton]

end

/-! ## After registrations -/

variable {calls : List (String × Method)} {name : String} {n : Nat}

theorem exists_lastFor {call : String × Method} (h : call ∈ calls)
    (hname : IsSameName call.1 name) :
    ∃ method, lastFor calls name call.2.arity.slot = some method := by
  rw [← Option.isSome_iff_exists, lastFor, Option.isSome_map, List.getLast?_isSome]
  refine List.ne_nil_of_mem (a := call) (List.mem_filter.2 ⟨h, ?_⟩)
  simp [hname]

theorem exists_lookup? (h : ∃ call ∈ calls, IsSameName call.1 name) :
    ∃ o, lookup? (key name) (empty.registerAll calls).entries = some o :=
  Option.isSome_iff_exists.1 (lookup?_isSome_iff.2 (key_mem_names_iff.2 h))

/-- A registered name accepts some number of arguments, if its variable method does. -/
theorem exists_accepts (hname : ∃ call ∈ calls, IsSameName call.1 name)
    (hvariadic : ∀ method, lastFor calls name .variadic = some method →
      method.arity.bounds.1 ≤ method.arity.bounds.2) :
    ∃ n, (empty.registerAll calls).Accepts name n := by
  obtain ⟨o, ho⟩ := exists_lookup? hname
  obtain ⟨call, hcall, hsame⟩ := hname
  obtain ⟨method, hmethod⟩ := exists_lastFor hcall hsame
  simp only [accepts_iff ho, Overloads.exists_find?_iff, slot?_of_lookup? ho]
  cases hslot : call.2.arity.slot with
  | exact count =>
    rw [hslot] at hmethod
    exact ⟨count, .inl (by rw [hmethod]; rfl)⟩
  | variadic =>
    rw [hslot] at hmethod
    have haccepts := Arity.accepts_iff.2 ⟨le_rfl, hvariadic method hmethod⟩
    exact ⟨method.arity.bounds.1, .inr ⟨method, hmethod, haccepts⟩⟩

/-- **The error tells the accepted numbers**, if the bounds of the variable method are in order and
below the last word. They are told as separate intervals. A call with another number is told the
bounds if they are one interval, and else all intervals in increasing order. -/
theorem errors_tell_accepted (hname : ∃ call ∈ calls, IsSameName call.1 name)
    (hvariadic : ∀ method, lastFor calls name .variadic = some method →
      method.arity.bounds.1 ≤ method.arity.bounds.2 ∧ method.arity.bounds.2 < wordSize - 1) :
    ∃ o accepted, lookup? (key name) (empty.registerAll calls).entries = some o ∧
      o.accepted? = some accepted ∧ AreSeparate accepted ∧
      (∀ n, Covers accepted n ↔ (empty.registerAll calls).Accepts name n) ∧
      (∀ n min max,
        (empty.registerAll calls).resolve name n = .error (.arityMismatch name min max n) ↔
          (empty.registerAll calls).AcceptsInterval name min max ∧ ¬(min ≤ n ∧ n ≤ max)) ∧
      ∀ n text,
        (empty.registerAll calls).resolve name n = .error (.unsupportedArity name text n) ↔
          ¬(empty.registerAll calls).Accepts name n ∧
          (∀ min max, ¬(empty.registerAll calls).AcceptsInterval name min max) ∧
          text = ", ".intercalate (accepted.map intervalText) := by
  obtain ⟨o, ho⟩ := exists_lookup? hname
  have hslot (slot : Slot) : o.slot? slot = lastFor calls name slot := slot?_of_lookup? ho slot
  simp only [← hslot] at hvariadic
  have hstays : o.StaysInWords := by
    by_contra hpast
    obtain ⟨method, hmethod, hlast, -⟩ := Overloads.not_staysInWords_iff.1 hpast
    exact absurd (hvariadic method hmethod).2 (Nat.not_lt.2 hlast)
  obtain ⟨accepted, haccepted⟩ : ∃ accepted, o.accepted? = some accepted :=
    ⟨_, Overloads.accepted?_eq_some_iff.2 ⟨hstays, rfl⟩⟩
  obtain ⟨hseparate, hcovers⟩ := Overloads.areSeparate_accepted? haccepted fun method hmethod =>
    (hvariadic method hmethod).1
  have hsome : ∃ n, (empty.registerAll calls).Accepts name n :=
    exists_accepts hname fun method hmethod =>
      (hvariadic method ((hslot .variadic).trans hmethod)).1
  have hinterval (min max : Nat) :
      (empty.registerAll calls).AcceptsInterval name min max ↔ accepted = [(min, max)] :=
    acceptsInterval_iff ho hseparate hcovers hsome
  refine ⟨o, accepted, ho, haccepted, hseparate,
    fun n => (hcovers n).trans (accepts_iff ho).symm, ?_, ?_⟩
  · intro n min max
    rw [resolve_eq_error_iff ho, Overloads.arityError_eq_mismatch_iff, haccepted,
      Option.some.injEq, ← hinterval]
    constructor
    · rintro ⟨hn, h⟩
      exact ⟨h, (h n).not.1 hn⟩
    · rintro ⟨h, hn⟩
      exact ⟨(h n).not.2 hn, h⟩
  · intro n text
    rw [resolve_eq_error_iff ho, Overloads.arityError_eq_unsupported_iff]
    simp only [haccepted, Option.some.injEq, exists_eq_left', hinterval, Prod.forall, ne_eq]

/-- A method that gives null. -/
def null (arity : Arity) : Method := ⟨arity, false, fun _ _ => .ok .null⟩

/-- Methods of one name for a range of numbers, and for exactly each of some numbers. -/
def ranged (min max : Nat) (counts : List (Fin 4)) : List (String × Method) :=
  ("F", null (.between min max)) :: counts.map fun count => ("f", null (.exact count))

/-- Accepted numbers with gaps between them are all listed. -/
theorem errors_tell_accepted_gapped :
    (∃ call ∈ ranged 4 6 [0, 2], IsSameName call.1 "f") ∧
      (empty.registerAll (ranged 4 6 [0, 2])).resolve "f" 3 =
        .error (.unsupportedArity "f" "0, 2, 4-6" 3) := by
  have hname : ∃ call ∈ ranged 4 6 [0, 2], IsSameName call.1 "f" :=
    ⟨_, List.mem_cons_self, by decide⟩
  have hvariadic : ∀ method, lastFor (ranged 4 6 [0, 2]) "f" .variadic = some method →
      method.arity.bounds.1 ≤ method.arity.bounds.2 ∧ method.arity.bounds.2 < wordSize - 1 := by
    intro method hmethod
    obtain rfl : null (.between 4 6) = method := Option.some.inj hmethod
    decide
  obtain ⟨o, accepted, ho, haccepted, _, hcovers, _, hunsupported⟩ :=
    errors_tell_accepted hname hvariadic
  obtain rfl : [(0, 0), (2, 2), (4, 6)] = accepted := by
    obtain rfl := Option.some.inj ho
    rw [Overloads.accepted?, Overloads.intervals, List.mergeSort_of_pairwise (by decide)]
      at haccepted
    exact Option.some.inj haccepted
  refine ⟨hname, (hunsupported 3 _).2 ⟨?_, fun min max h => ?_, by decide⟩⟩
  · rw [← hcovers]
    simp [Covers]
  · have hzero := (h 0).1 ((hcovers 0).1 (by simp [Covers]))
    have htwo := (h 2).1 ((hcovers 2).1 (by simp [Covers]))
    have hone := (hcovers 1).2 ((h 1).2 ⟨by omega, by omega⟩)
    simp [Covers] at hone

/-! ## The last word -/

/-- No number beyond the words is formed exactly if there is an answer. -/
theorem staysInWords_iff_resolve : (empty.registerAll calls).StaysInWords name n ↔
    (empty.registerAll calls).resolve name n ≠ .error .panic := by
  rw [ne_eq, resolve_eq_panic_iff]
  cases hlookup : lookup? (key name) (empty.registerAll calls).entries with
  | none => simp [StaysInWords, PassesLastWord, hlookup, lastFor_of_lookup?_none hlookup]
  | some o => simp [StaysInWords, passesLastWord_iff hlookup, hlookup]

/-- If bounds and numbers of arguments are words, then it is a number below all that the variable
method accepts for which the last word is passed. -/
theorem passesLastWord_iff_of_words (hwords : ∀ call ∈ calls, call.2.arity.bounds.2 < wordSize)
    (hn : n < wordSize) : PassesLastWord calls name n ↔
      ∃ method, lastFor calls name .variadic = some method ∧
        method.arity.bounds.2 = wordSize - 1 ∧ n < method.arity.bounds.1 ∧
        lastFor calls name (.exact n) = none ∧
        ∃ k, method.arity.bounds.1 < k ∧ (lastFor calls name (.exact k)).isSome = true := by
  constructor
  · rintro ⟨hexact, method, hmethod, hrefused, hlast, hlarger⟩
    obtain ⟨_, call, hcall, _, rfl⟩ := lastFor_eq_some hmethod
    have hword := hwords call hcall
    have hout : ¬(call.2.arity.bounds.1 ≤ n ∧ n ≤ call.2.arity.bounds.2) := by
      rw [← Arity.accepts_iff, hrefused]
      decide
    exact ⟨call.2, hmethod, by omega, by omega, hexact, hlarger⟩
  · rintro ⟨method, hmethod, hlast, hless, hexact, hlarger⟩
    have hrefused : method.arity.accepts n = false := by
      rw [← Bool.not_eq_true, Arity.accepts_iff]
      omega
    exact ⟨hexact, method, hmethod, hrefused, hlast.ge, hlarger⟩

/-- **Only words are formed**, and then there is an answer, unless the variable method takes all
numbers from its least one up to the last word, there is a method for exactly some larger number
than that least one, and the call has fewer arguments and no method for exactly their number. -/
theorem staysInWords_iff (hwords : ∀ call ∈ calls, call.2.arity.bounds.2 < wordSize)
    (hn : n < wordSize) :
    ((empty.registerAll calls).StaysInWords name n ↔
      ¬∃ method, lastFor calls name .variadic = some method ∧
        method.arity.bounds.2 = wordSize - 1 ∧ n < method.arity.bounds.1 ∧
        lastFor calls name (.exact n) = none ∧
        ∃ k, method.arity.bounds.1 < k ∧ (lastFor calls name (.exact k)).isSome = true) ∧
    ((empty.registerAll calls).StaysInWords name n ↔
      (empty.registerAll calls).resolve name n ≠ .error .panic) := by
  refine ⟨?_, staysInWords_iff_resolve⟩
  rw [staysInWords_iff_resolve, ne_eq, resolve_eq_panic_iff, passesLastWord_iff_of_words hwords hn]

/-- With a method for a single argument, only words are formed. -/
theorem staysInWords_iff_single :
    (∀ call ∈ ranged 2 (wordSize - 1) [1], call.2.arity.bounds.2 < wordSize) ∧ 0 < wordSize ∧
      (empty.registerAll (ranged 2 (wordSize - 1) [1])).StaysInWords "f" 0 ∧
      (empty.registerAll (ranged 2 (wordSize - 1) [1])).resolve "f" 0 ≠ .error .panic := by
  have hwords : ∀ call ∈ ranged 2 (wordSize - 1) [1], call.2.arity.bounds.2 < wordSize := by decide
  have hn : 0 < wordSize := by decide
  have hstays : (empty.registerAll (ranged 2 (wordSize - 1) [1])).StaysInWords "f" 0 := by
    refine (staysInWords_iff hwords hn).1.2 ?_
    rintro ⟨method, hmethod, _, _, _, k, hk, hlarger⟩
    obtain rfl : null (.between 2 (wordSize - 1)) = method := Option.some.inj hmethod
    obtain ⟨larger, hlast⟩ := Option.isSome_iff_exists.1 hlarger
    obtain ⟨hslot, call, hcall, _, rfl⟩ := lastFor_eq_some hlast
    rcases List.mem_pair.1 hcall with rfl | rfl
    · exact absurd hslot (by simp [null, Arity.slot])
    · obtain rfl : 1 = k := by simpa [null, Arity.slot] using hslot
      exact absurd hk (by decide)
  exact ⟨hwords, hn, hstays, (staysInWords_iff hwords hn).2.1 hstays⟩

/-- With a method for three arguments, the number after the last word is formed for the error, and
nothing is answered. -/
theorem lastWord_stepped_past :
    (∀ call ∈ ranged 2 (wordSize - 1) [3],
      call.2.arity.bounds.1 < wordSize ∧ call.2.arity.bounds.2 < wordSize) ∧
    ¬(empty.registerAll (ranged 2 (wordSize - 1) [3])).StaysInWords "f" 0 ∧
    (empty.registerAll (ranged 2 (wordSize - 1) [3])).resolve "f" 0 = .error .panic := by
  have hpasses : PassesLastWord (ranged 2 (wordSize - 1) [3]) "f" 0 :=
    ⟨rfl, null (.between 2 (wordSize - 1)), rfl, by decide, by decide, 3, by decide, rfl⟩
  have hpanic := resolve_eq_panic_iff.2 hpasses
  exact ⟨by decide, fun hstays => staysInWords_iff_resolve.1 hstays hpanic, hpanic⟩

end Registry

end LogFilter
