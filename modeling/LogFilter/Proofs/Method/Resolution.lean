import LogFilter.Proofs.Method.Accepted

/-!
# What a call resolves to

After any registrations, a name and a number of arguments resolve to the method that was registered
last for exactly this number, else to the last variable one if that accepts the number. Without any
registration of the name there is no method, and without one that accepts the number there is an
error (`Registry.answers_resolve`).

The error tells the accepted numbers. To tell them may ask for the number after the last word, and
then nothing is answered: `Registry.PassesLastWord` says of which registrations, and
`Registry.resolve_eq_panic_iff` that it is of no others. The standard methods are not among these.

Registrations of other names do not count. Registrations for other numbers of arguments never change
the method that is found, but they do change an answer without a method: with the first one an
unknown name becomes a known one, and every further one adds to the numbers that the error lists.
-/

namespace LogFilter

/-- The error of a call with a number of arguments that no method of the name accepts. -/
inductive ResolveError.IsArityError (name : String) (actual : Nat) : ResolveError → Prop
  | mismatch {min max : Nat} : IsArityError name actual (.arityMismatch name min max actual)
  | unsupported {accepted : String} :
      IsArityError name actual (.unsupportedArity name accepted actual)

theorem Overloads.isArityError_arityError {o : Overloads} (h : o.StaysInWords) (name : String)
    (actual : Nat) : (o.arityError name actual).IsArityError name actual := by
  unfold arityError
  split
  · next hnone => exact absurd h (accepted?_eq_none_iff.1 hnone)
  · exact .mismatch
  · exact .unsupported

namespace Registry

open Overloads (wordSize)

variable {calls : List (String × Method)} {name : String} {count : Nat}

/-! ## Overloads of a name -/

theorem key_mem_names_iff :
    key name ∈ (empty.registerAll calls).names ↔ ∃ call ∈ calls, IsSameName call.1 name := by
  rw [mem_names_registerAll]
  simp [names, empty, key_eq_iff]

/-- The overloads that are found for a name have the last registrations in their slots. -/
theorem slot?_of_lookup? {o : Overloads}
    (h : lookup? (key name) (empty.registerAll calls).entries = some o) (slot : Slot) :
    o.slot? slot = lastFor calls name slot := by
  rw [← slot?_registerAll, h]
  rfl

/-- Without overloads for a name there are no registrations of it. -/
theorem lastFor_of_lookup?_none
    (h : lookup? (key name) (empty.registerAll calls).entries = none) (slot : Slot) :
    lastFor calls name slot = none := by
  rw [← slot?_registerAll, h]
  rfl

theorem resolve_of_lookup? {registry : Registry} {o : Overloads}
    (h : lookup? (key name) registry.entries = some o) :
    registry.resolve name count =
      (o.find? count).elim (.error (o.arityError name count)) fun method => .ok (some method) := by
  simp only [resolve, h]
  cases o.find? count <;> rfl

/-- The method that is found, by the last registrations. -/
theorem resolve_eq_ok_some_iff {method : Method} :
    (empty.registerAll calls).resolve name count = .ok (some method) ↔
      (lastFor calls name (.exact count)).or
        ((lastFor calls name .variadic).filter fun m => m.arity.accepts count) = some method := by
  cases hlookup : lookup? (key name) (empty.registerAll calls).entries with
  | none => simp [resolve, hlookup, lastFor_of_lookup?_none hlookup]
  | some o =>
    rw [resolve_of_lookup? hlookup, ← slot?_of_lookup? hlookup, ← slot?_of_lookup? hlookup,
      ← Overloads.find?_eq]
    cases o.find? count <;> simp

/-! ## Calls without an answer -/

/-- To tell which numbers are accepted, the number after the last word is asked for. There is no
method for exactly the number of arguments, and the last variable one does not accept it, but
reaches the last word; and there is a method for exactly some number above the least one of the
variable method. -/
def PassesLastWord (calls : List (String × Method)) (name : String) (count : Nat) : Prop :=
  lastFor calls name (.exact count) = none ∧
    ∃ method, lastFor calls name .variadic = some method ∧ method.arity.accepts count = false ∧
      wordSize - 1 ≤ method.arity.bounds.2 ∧
      ∃ k, method.arity.bounds.1 < k ∧ (lastFor calls name (.exact k)).isSome = true

/-- A call whose method is not found gets no answer if its overloads do not stay in words. -/
theorem passesLastWord_iff {o : Overloads}
    (h : lookup? (key name) (empty.registerAll calls).entries = some o) :
    PassesLastWord calls name count ↔ o.find? count = none ∧ ¬o.StaysInWords := by
  simp only [PassesLastWord, ← slot?_of_lookup? h, Overloads.find?_eq_none_iff,
    Overloads.not_staysInWords_iff]
  constructor
  · rintro ⟨hexact, method, hmethod, hrefused, hlast, hlarger⟩
    refine ⟨⟨hexact, fun other hother => ?_⟩, method, hmethod, hlast, hlarger⟩
    obtain rfl : method = other := Option.some.inj (hmethod.symm.trans hother)
    exact hrefused
  · rintro ⟨⟨hexact, hrefused⟩, method, hmethod, hlast, hlarger⟩
    exact ⟨hexact, method, hmethod, hrefused method hmethod, hlast, hlarger⟩

/-- **Nothing is answered exactly if the last word is passed.** -/
theorem resolve_eq_panic_iff :
    (empty.registerAll calls).resolve name count = .error .panic ↔
      PassesLastWord calls name count := by
  cases hlookup : lookup? (key name) (empty.registerAll calls).entries with
  | none => simp [resolve, hlookup, PassesLastWord, lastFor_of_lookup?_none hlookup]
  | some o =>
    have hpanic : o.arityError name count = .panic ↔ ¬o.StaysInWords :=
      Overloads.arityError_eq_panic_iff
    rw [resolve_of_lookup? hlookup, passesLastWord_iff hlookup, ← hpanic]
    cases o.find? count <;> simp

/-- The standard methods take few arguments, so every call is answered. -/
theorem standard_resolve_ne_panic (name : String) (count : Nat) :
    standard.resolve name count ≠ .error .panic := by
  have hfew : ∀ call ∈ Method.standard, call.2.arity.bounds.2 < wordSize - 1 := by decide
  intro h
  obtain ⟨_, method, hmethod, _, hlast, _⟩ := resolve_eq_panic_iff.1 h
  obtain ⟨_, call, hcall, _, rfl⟩ := lastFor_eq_some hmethod
  exact absurd (hfew call hcall) (Nat.not_lt.2 hlast)

/-! ## Calls with an answer -/

/-- The answers to a name with a number of arguments after registrations. -/
inductive Answers (calls : List (String × Method)) (name : String) (count : Nat) :
    Except ResolveError (Option Method) → Prop
  /-- The name was not registered. -/
  | unknown (h : ∀ call ∈ calls, ¬IsSameName call.1 name) : Answers calls name count (.ok none)
  /-- The last method for exactly this number. -/
  | exact {method : Method} (h : lastFor calls name (.exact count) = some method) :
      Answers calls name count (.ok (some method))
  /-- There is no method for exactly this number, but the last variable one accepts it. -/
  | variadic {method : Method} (h : lastFor calls name (.exact count) = none)
      (hv : lastFor calls name .variadic = some method)
      (ha : method.arity.accepts count = true) : Answers calls name count (.ok (some method))
  /-- The name was registered, but without a method that accepts the number. -/
  | refused {error : ResolveError} (hname : ∃ call ∈ calls, IsSameName call.1 name)
      (h : lastFor calls name (.exact count) = none)
      (hv : ∀ method, lastFor calls name .variadic = some method →
        method.arity.accepts count = false)
      (he : error.IsArityError name count) : Answers calls name count (.error error)

/-- **After registrations, a call resolves as its last registrations say.** -/
theorem answers_resolve (h : ¬PassesLastWord calls name count) :
    Answers calls name count ((empty.registerAll calls).resolve name count) := by
  cases hlookup : lookup? (key name) (empty.registerAll calls).entries with
  | none =>
    rw [resolve, hlookup]
    refine .unknown fun call hcall hname => ?_
    have hmem : key name ∈ (empty.registerAll calls).names :=
      key_mem_names_iff.2 ⟨call, hcall, hname⟩
    have hsome := lookup?_isSome_iff.2 hmem
    rw [hlookup] at hsome
    exact absurd hsome (by simp)
  | some o =>
    rw [passesLastWord_iff hlookup] at h
    rw [resolve_of_lookup? hlookup]
    cases hfind : o.find? count with
    | none =>
      have hstays : o.StaysInWords := by
        by_contra hstays
        exact h ⟨hfind, hstays⟩
      have hname : ∃ call ∈ calls, IsSameName call.1 name :=
        key_mem_names_iff.1 (lookup?_isSome_iff.1 (by rw [hlookup]; rfl))
      obtain ⟨hexact, hrefused⟩ := Overloads.find?_eq_none_iff.1 hfind
      simp only [slot?_of_lookup? hlookup] at hexact hrefused
      exact .refused hname hexact hrefused (Overloads.isArityError_arityError hstays name count)
    | some method =>
      rw [Overloads.find?_eq, slot?_of_lookup? hlookup, slot?_of_lookup? hlookup] at hfind
      cases hexact : lastFor calls name (.exact count) with
      | some found =>
        rw [hexact, Option.some_or] at hfind
        exact .exact (hexact.trans hfind)
      | none =>
        rw [hexact, Option.none_or] at hfind
        obtain ⟨hvariadic, haccepts⟩ := Option.filter_eq_some_iff.1 hfind
        exact .variadic hexact hvariadic haccepts

/-- What is found accepts the number of arguments it was found for, and was registered. -/
theorem accepts_of_resolve {method : Method}
    (h : (empty.registerAll calls).resolve name count = .ok (some method)) :
    method.arity.accepts count = true ∧ ∃ call ∈ calls, call.2 = method := by
  rcases Option.or_eq_some_iff.1 (resolve_eq_ok_some_iff.1 h) with he | ⟨_, hv⟩
  · obtain ⟨hslot, call, hcall, _, hmethod⟩ := lastFor_eq_some he
    exact ⟨Arity.accepts_of_slot hslot, call, hcall, hmethod⟩
  · obtain ⟨hv, ha⟩ := Option.filter_eq_some_iff.1 hv
    obtain ⟨_, call, hcall, _, hmethod⟩ := lastFor_eq_some hv
    exact ⟨ha, call, hcall, hmethod⟩

/-! ## Registrations that do not count -/

/-- A registration of another name changes no answer. -/
theorem resolve_of_other_name {before after : List (String × Method)} {call : String × Method}
    (h : ¬IsSameName call.1 name) :
    (empty.registerAll (before ++ call :: after)).resolve name count =
      (empty.registerAll (before ++ after)).resolve name count := by
  have hkey : key call.1 ≠ key name := fun hkey => h (key_eq_iff.1 hkey)
  have hlookup : lookup? (key name) (empty.registerAll (before ++ call :: after)).entries =
      lookup? (key name) (empty.registerAll (before ++ after)).entries := by
    simp [lookup?_registerAll isSorted_empty, List.filter_append, hkey]
  unfold resolve
  rw [hlookup]

/-- The slots on which the method for a number of arguments depends: the one for exactly this number
and, if that is empty, the variable one. -/
def Consults (calls : List (String × Method)) (name : String) (count : Nat) (slot : Slot) : Prop :=
  slot = .exact count ∨ slot = .variadic ∧ lastFor calls name (.exact count) = none

/-- A registration into a slot that is not consulted does not change which method is found. -/
theorem resolve_of_other_slot {before after : List (String × Method)} {call : String × Method}
    (h : ¬Consults (before ++ after) name count call.2.arity.slot) (method : Method) :
    (empty.registerAll (before ++ call :: after)).resolve name count = .ok (some method) ↔
      (empty.registerAll (before ++ after)).resolve name count = .ok (some method) := by
  obtain ⟨hexact, hvariadic⟩ := not_or.1 h
  rw [resolve_eq_ok_some_iff, resolve_eq_ok_some_iff, lastFor_insert fun _ => hexact]
  cases he : lastFor (before ++ after) name (.exact count) with
  | some m => rw [Option.some_or, Option.some_or]
  | none => rw [lastFor_insert fun _ hslot => hvariadic ⟨hslot, he⟩]

/-- Neighbouring registrations into different slots can change places. -/
theorem registerAll_comm {before after : List (String × Method)} {a b : String × Method}
    (h : ¬IsSameName a.1 b.1 ∨ a.2.arity.slot ≠ b.2.arity.slot) :
    empty.registerAll (before ++ a :: b :: after) =
      empty.registerAll (before ++ b :: a :: after) := by
  rw [registerAll_append, registerAll_append]
  have hsorted := isSorted_registerAll isSorted_empty before
  exact congrArg (Registry.registerAll · after) (register_comm hsorted h)

/-! ## The answers of a registry -/

/-- **A registry answers as its last registrations say**, unless the last word is passed for it.
Registrations of other names change no answer, those into slots that are not consulted do not change
which method is found, and those into different slots can change places. The names are the
registered ones in lower case, each once and in order. -/
theorem resolution_follows_registrations :
    (∀ calls name count, ¬PassesLastWord calls name count →
      Answers calls name count ((empty.registerAll calls).resolve name count)) ∧
    (∀ before call after name count, ¬IsSameName call.1 name →
      (empty.registerAll (before ++ call :: after)).resolve name count =
        (empty.registerAll (before ++ after)).resolve name count) ∧
    (∀ before call after name count,
      ¬Consults (before ++ after) name count call.2.arity.slot → ∀ method,
      ((empty.registerAll (before ++ call :: after)).resolve name count = .ok (some method) ↔
        (empty.registerAll (before ++ after)).resolve name count = .ok (some method))) ∧
    (∀ before a b after, ¬IsSameName a.1 b.1 ∨ a.2.arity.slot ≠ b.2.arity.slot →
      empty.registerAll (before ++ a :: b :: after) =
        empty.registerAll (before ++ b :: a :: after)) ∧
    ∀ calls, (empty.registerAll calls).names.Pairwise (· < ·) ∧
      ∀ k, k ∈ (empty.registerAll calls).names ↔ ∃ call ∈ calls, key call.1 = k := by
  refine ⟨fun _ _ _ => answers_resolve, fun _ _ _ _ _ => resolve_of_other_name,
    fun _ _ _ _ _ => resolve_of_other_slot, fun _ _ _ _ => registerAll_comm, fun calls => ?_⟩
  refine ⟨isSorted_registerAll isSorted_empty calls, fun k => ?_⟩
  rw [mem_names_registerAll]
  simp [names, empty]

/-- Two methods of one name, for one argument and for two, and a method of another name. -/
theorem resolution_follows_registrations_length_equals :
    (∃ error, (empty.registerAll [("f", Method.length)]).resolve "F" 0 = .error error ∧
      error.IsArityError "F" 0) ∧
    (empty.registerAll [("f", Method.length), ("g", Method.equals)]).resolve "F" 1 =
      (empty.registerAll [("f", Method.length)]).resolve "F" 1 ∧
    ((empty.registerAll [("f", Method.length), ("F", Method.equals)]).resolve "f" 1 =
        .ok (some Method.length) ↔
      (empty.registerAll [("f", Method.length)]).resolve "f" 1 = .ok (some Method.length)) ∧
    empty.registerAll [("f", Method.length), ("F", Method.equals)] =
      empty.registerAll [("F", Method.equals), ("f", Method.length)] := by
  obtain ⟨hanswers, hname, hslot, hcomm, _⟩ := resolution_follows_registrations
  have hvariadic : lastFor [("f", Method.length)] "F" .variadic = none := rfl
  have hexact : lastFor [("f", Method.length)] "F" (.exact 0) = none := rfl
  have hwords : ¬PassesLastWord [("f", Method.length)] "F" 0 := by
    simp [PassesLastWord, hvariadic]
  have hconsults : ¬Consults ([("f", Method.length)] ++ []) "f" 1 Method.equals.arity.slot := by
    rintro (h | ⟨h, _⟩) <;> exact absurd h (by decide)
  refine ⟨?_, hname [("f", Method.length)] ("g", Method.equals) [] "F" 1 (by decide),
    hslot [("f", Method.length)] ("F", Method.equals) [] "f" 1 hconsults Method.length,
    hcomm [] ("f", Method.length) ("F", Method.equals) [] (Or.inr (by decide))⟩
  generalize hanswer : (empty.registerAll [("f", Method.length)]).resolve "F" 0 = answer
  have h := hanswers [("f", Method.length)] "F" 0 hwords
  rw [hanswer] at h
  cases h with
  | unknown h => exact absurd (h _ List.mem_cons_self) (by decide)
  | exact h => exact absurd (hexact.symm.trans h) (by simp)
  | variadic _ h => exact absurd (hvariadic.symm.trans h) (by simp)
  | refused _ _ _ he => exact ⟨_, rfl, he⟩

/-- An answer without a method does change: a method for one argument makes its name known, and
another one for two arguments changes the numbers in the error for none. -/
theorem resolve_changed_by_other_slot :
    ¬Consults [] "f" 0 Method.length.arity.slot ∧
    ¬Consults [("f", Method.length)] "f" 0 Method.equals.arity.slot ∧
    (empty.registerAll []).resolve "f" 0 = .ok none ∧
    (empty.registerAll [("f", Method.length)]).resolve "f" 0 =
      .error (.arityMismatch "f" 1 1 0) ∧
    (empty.registerAll [("f", Method.length), ("f", Method.equals)]).resolve "f" 0 =
      .error (.arityMismatch "f" 1 2 0) := by
  -- the intervals are in order as they come
  have hone : (Overloads.empty.insert Method.length).arityError "f" 0 =
      .arityMismatch "f" 1 1 0 := by
    rw [Overloads.arityError, Overloads.accepted?, Overloads.intervals,
      List.mergeSort_of_pairwise (by decide)]
    rfl
  have htwo : ((Overloads.empty.insert Method.length).insert Method.equals).arityError "f" 0 =
      .arityMismatch "f" 1 2 0 := by
    rw [Overloads.arityError, Overloads.accepted?, Overloads.intervals,
      List.mergeSort_of_pairwise (by decide)]
    rfl
  refine ⟨?_, ?_, rfl, congrArg Except.error hone, congrArg Except.error htwo⟩
  · rintro (h | ⟨h, _⟩) <;> exact absurd h (by decide)
  · rintro (h | ⟨h, _⟩) <;> exact absurd h (by decide)

end Registry

end LogFilter
