import LogFilter.Method.Standard
import Mathlib.Data.String.Basic

/-!
# Registries as histories of registrations

What a registry answers, told by the registrations that made it. A registration fills one slot: a
name in any ASCII case together with a fixed number of arguments, or together with a variable one. A
later registration into the same slot takes the place of the earlier one.

* The entries of a registry are in strictly increasing order, and the overloads of a key are those of
  the registrations of this key, in their order: `lookup?_registerAll`.
* So the method in a slot is the one that was registered last for it: `slot?_registerAll`.
* Two registries with the same overloads under every key are the same: `ext_lookup?`.
-/

namespace LogFilter

/-! ## Slots -/

/-- Where a method stands among those of its name. -/
inductive Slot
  /-- For a fixed number of arguments. -/
  | exact (count : Nat)
  /-- For a variable number of arguments. -/
  | variadic
  deriving DecidableEq, Repr

/-- The slot that a method fills. -/
def Arity.slot : Arity → Slot
  | exact count => .exact count.val
  | between _ _ => .variadic

theorem Arity.accepts_iff {arity : Arity} {count : Nat} :
    arity.accepts count = true ↔ arity.bounds.1 ≤ count ∧ count ≤ arity.bounds.2 := by
  rw [accepts, Bool.and_eq_true, decide_eq_true_iff, decide_eq_true_iff]

theorem Arity.accepts_of_slot {arity : Arity} {count : Nat} (h : arity.slot = .exact count) :
    arity.accepts count = true := by
  cases arity with
  | exact n =>
    obtain rfl : n.val = count := by simpa [slot] using h
    exact accepts_iff.2 ⟨le_rfl, le_rfl⟩
  | between min max => exact absurd h (by simp [slot])

namespace Overloads

/-- The method in a slot. -/
def slot? (o : Overloads) : Slot → Option Method
  | .exact count => if h : count < 4 then o.exact ⟨count, h⟩ else none
  | .variadic => o.variadic

@[simp] theorem slot?_empty (slot : Slot) : empty.slot? slot = none := by
  cases slot with
  | exact count => simp [slot?, empty]
  | variadic => rfl

/-- Overloads are given by the methods in their slots. -/
theorem ext_slot? {a b : Overloads} (h : ∀ slot, a.slot? slot = b.slot? slot) : a = b := by
  obtain ⟨exact, variadic⟩ := a
  have hexact : exact = b.exact := by
    funext count
    simpa [slot?] using h (.exact count.val)
  have hvariadic : variadic = b.variadic := h .variadic
  rw [hexact, hvariadic]

/-- A method that is inserted fills its own slot and leaves the others as they are. -/
theorem slot?_insert (method : Method) (o : Overloads) (slot : Slot) :
    (o.insert method).slot? slot =
      if method.arity.slot = slot then some method else o.slot? slot := by
  unfold insert
  cases method.arity with
  | between min max => cases slot <;> simp [slot?, Arity.slot]
  | exact n =>
    cases slot with
    | variadic => simp [slot?, Arity.slot]
    | exact count =>
      by_cases h : count < 4
      · simp [slot?, Arity.slot, h, Fin.ext_iff, eq_comm]
      · have hne : n.val ≠ count := by omega
        simp [slot?, Arity.slot, h, hne]

/-- Methods in different slots can be inserted in either order. -/
theorem insert_comm {a b : Method} (h : a.arity.slot ≠ b.arity.slot) (o : Overloads) :
    (o.insert a).insert b = (o.insert b).insert a := by
  refine ext_slot? fun slot => ?_
  simp only [slot?_insert]
  by_cases ha : a.arity.slot = slot
  · have hb : b.arity.slot ≠ slot := fun hb => h (ha.trans hb.symm)
    simp [ha, hb]
  · simp [ha]

/-- The method for a number of arguments, by the slots. -/
theorem find?_eq (o : Overloads) (count : Nat) :
    o.find? count = (o.slot? (.exact count)).or
      ((o.slot? .variadic).filter fun method => method.arity.accepts count) := by
  have hslot : (if h : count < 4 then o.exact ⟨count, h⟩ else none) = o.slot? (.exact count) := rfl
  rw [find?, hslot]
  cases o.slot? (.exact count) <;> rfl

end Overloads

namespace Registry

/-! ## Keys -/

/-- Names that differ at most in the case of ASCII letters. -/
def IsSameName (a b : String) : Prop := Text.sameIgnoringAsciiCase a.toList b.toList = true

instance (a b : String) : Decidable (IsSameName a b) :=
  inferInstanceAs (Decidable (_ = true))

theorem key_eq_iff {a b : String} : key a = key b ↔ IsSameName a b := by
  rw [IsSameName, Text.sameIgnoringAsciiCase, beq_iff_eq, key, key, String.ofList_inj]

/-! ## Entries -/

/-- Entries in strictly increasing order of their keys. -/
def IsSorted (entries : List (String × Overloads)) : Prop :=
  (entries.map Prod.fst).Pairwise (· < ·)

theorem isSorted_cons {k : String} {o : Overloads} {rest : List (String × Overloads)} :
    IsSorted ((k, o) :: rest) ↔ (∀ k' ∈ rest.map Prod.fst, k < k') ∧ IsSorted rest :=
  List.pairwise_cons

theorem lookup?_eq_none {k : String} {entries : List (String × Overloads)}
    (h : k ∉ entries.map Prod.fst) : lookup? k entries = none := by
  induction entries with
  | nil => rfl
  | cons entry rest ih =>
    obtain ⟨hne, hrest⟩ := not_or.1 (List.mem_cons.not.1 h)
    rw [lookup?, if_neg (Ne.symm hne), ih hrest]

theorem lookup?_isSome_iff {k : String} {entries : List (String × Overloads)} :
    (lookup? k entries).isSome = true ↔ k ∈ entries.map Prod.fst := by
  constructor
  · intro h
    by_contra hmem
    rw [lookup?_eq_none hmem] at h
    exact absurd h (by simp)
  · intro h
    induction entries with
    | nil => exact absurd h (by simp)
    | cons entry rest ih =>
      rw [lookup?]
      split
      · rfl
      · next hne =>
        exact ih ((List.mem_cons.1 h).resolve_left (Ne.symm hne))

/-- Sorted entries are given by their lookups. -/
theorem eq_of_lookup? {l r : List (String × Overloads)} (hl : IsSorted l) (hr : IsSorted r)
    (h : ∀ k, lookup? k l = lookup? k r) : l = r := by
  induction l generalizing r with
  | nil =>
    cases r with
    | nil => rfl
    | cons entry r => exact absurd (h entry.1) (by simp [lookup?])
  | cons entry l ih =>
    obtain ⟨k, o⟩ := entry
    cases r with
    | nil => exact absurd (h k) (by simp [lookup?])
    | cons entry' r =>
      obtain ⟨k', o'⟩ := entry'
      obtain ⟨hlk, hltail⟩ := isSorted_cons.1 hl
      obtain ⟨hrk, hrtail⟩ := isSorted_cons.1 hr
      -- neither first key can be below the other, because it would not be found there
      have hk : k = k' := by
        have hmem : k ∈ k' :: r.map Prod.fst :=
          lookup?_isSome_iff.1 (show (lookup? k ((k', o') :: r)).isSome by
            rw [← h k]; simp [lookup?])
        have hmem' : k' ∈ k :: l.map Prod.fst :=
          lookup?_isSome_iff.1 (show (lookup? k' ((k, o) :: l)).isSome by
            rw [h k']; simp [lookup?])
        rcases List.mem_cons.1 hmem with hk | hk
        · exact hk
        rcases List.mem_cons.1 hmem' with hk' | hk'
        · exact hk'.symm
        · exact absurd (hrk k hk) (not_lt_of_gt (hlk k' hk'))
      subst hk
      obtain rfl : o = o' := by simpa [lookup?] using h k
      refine congrArg ((k, o) :: ·) (ih hltail hrtail fun j => ?_)
      have hj := h j
      by_cases hjk : k = j
      · subst hjk
        rw [lookup?_eq_none fun hmem => lt_irrefl _ (hlk _ hmem),
          lookup?_eq_none fun hmem => lt_irrefl _ (hrk _ hmem)]
      · simpa [lookup?, hjk] using hj

section

variable {key : String} {method : Method} {entries : List (String × Overloads)}

theorem mem_insertEntry {k : String} :
    k ∈ (insertEntry key method entries).map Prod.fst ↔ k = key ∨ k ∈ entries.map Prod.fst := by
  induction entries with
  | nil => simp [insertEntry]
  | cons entry rest ih =>
    rw [insertEntry]
    split
    · simp
    · next h =>
      rw [Std.LawfulEqOrd.eq_of_compare h]
      simp
    · rw [List.map_cons, List.mem_cons, ih, List.map_cons, List.mem_cons]
      exact or_left_comm

theorem isSorted_insertEntry (h : IsSorted entries) : IsSorted (insertEntry key method entries) := by
  induction entries with
  | nil => simp [insertEntry, IsSorted]
  | cons entry rest ih =>
    obtain ⟨k, o⟩ := entry
    obtain ⟨hk, hrest⟩ := isSorted_cons.1 h
    rw [insertEntry]
    split
    · next hlt =>
      have hlt : key < k := compare_lt_iff_lt.1 hlt
      refine isSorted_cons.2 ⟨fun k' hk' => ?_, h⟩
      rcases List.mem_cons.1 hk' with rfl | hk'
      · exact hlt
      · exact hlt.trans (hk k' hk')
    · exact isSorted_cons.2 ⟨hk, hrest⟩
    · next hgt =>
      have hgt : k < key := compare_gt_iff_gt.1 hgt
      refine isSorted_cons.2 ⟨fun k' hk' => ?_, ih hrest⟩
      rcases mem_insertEntry.1 hk' with rfl | hk'
      · exact hgt
      · exact hk k' hk'

/-- An inserted method is among the overloads of its key, and those of other keys stay. -/
theorem lookup?_insertEntry (h : IsSorted entries) (k : String) :
    lookup? k (insertEntry key method entries) =
      if key = k then some (((lookup? k entries).getD Overloads.empty).insert method)
      else lookup? k entries := by
  induction entries with
  | nil => simp [insertEntry, lookup?]
  | cons entry rest ih =>
    obtain ⟨j, o⟩ := entry
    obtain ⟨hj, hrest⟩ := isSorted_cons.1 h
    rw [insertEntry]
    split
    · next hlt =>
      have hlt : key < j := compare_lt_iff_lt.1 hlt
      -- the key comes before all that are there, so none of them has it
      have hnone : lookup? key ((j, o) :: rest) = none := by
        refine lookup?_eq_none fun hmem => ?_
        rcases List.mem_cons.1 hmem with hk | hk
        · exact hlt.ne hk
        · exact lt_asymm hlt (hj key hk)
      by_cases hk : key = k
      · subst hk
        rw [lookup?, if_pos rfl, if_pos rfl, hnone]
        rfl
      · rw [lookup?, if_neg hk, if_neg hk]
    · next heq =>
      obtain rfl : key = j := Std.LawfulEqOrd.eq_of_compare heq
      by_cases hk : key = k
      · simp [lookup?, hk]
      · simp [lookup?, hk]
    · next hgt =>
      have hne : j ≠ key := (compare_gt_iff_gt.1 hgt).ne
      by_cases hk : j = k
      · have hkey : key ≠ k := fun hkey => hne (hk.trans hkey.symm)
        simp [lookup?, hk, hkey]
      · simp [lookup?, hk, ih hrest]

end

/-! ## One registration -/

variable {registry : Registry}

theorem isSorted_register (h : IsSorted registry.entries) (name : String) (method : Method) :
    IsSorted (registry.register name method).entries := isSorted_insertEntry h

/-- The overloads of a key after a registration. -/
def withCall (o : Option Overloads) (call : String × Method) : Option Overloads :=
  some ((o.getD Overloads.empty).insert call.2)

theorem lookup?_register (h : IsSorted registry.entries) (call : String × Method) (k : String) :
    lookup? k (registry.register call.1 call.2).entries =
      if key call.1 = k then withCall (lookup? k registry.entries) call
      else lookup? k registry.entries := lookup?_insertEntry h k

theorem ext_lookup? {r s : Registry} (hr : IsSorted r.entries) (hs : IsSorted s.entries)
    (h : ∀ k, lookup? k r.entries = lookup? k s.entries) : r = s :=
  congrArg Registry.mk (eq_of_lookup? hr hs h)

/-- **Registrations into different slots can change places.** -/
theorem register_comm (h : IsSorted registry.entries) {a b : String × Method}
    (hab : ¬IsSameName a.1 b.1 ∨ a.2.arity.slot ≠ b.2.arity.slot) :
    (registry.register a.1 a.2).register b.1 b.2 =
      (registry.register b.1 b.2).register a.1 a.2 := by
  have ha := isSorted_register h a.1 a.2
  have hb := isSorted_register h b.1 b.2
  refine ext_lookup? (isSorted_register ha _ _) (isSorted_register hb _ _) fun k => ?_
  rw [lookup?_register ha, lookup?_register hb, lookup?_register h, lookup?_register h]
  by_cases hak : key a.1 = k
  · by_cases hbk : key b.1 = k
    · have hslot := hab.resolve_left fun hne => hne (key_eq_iff.1 (hak.trans hbk.symm))
      simp [hak, hbk, withCall, Overloads.insert_comm hslot]
    · simp [hak, hbk]
  · simp [hak]

/-! ## Any number of registrations -/

theorem registerAll_append (before after : List (String × Method)) :
    registry.registerAll (before ++ after) = (registry.registerAll before).registerAll after :=
  List.foldl_append

theorem isSorted_registerAll (h : IsSorted registry.entries) (calls : List (String × Method)) :
    IsSorted (registry.registerAll calls).entries := by
  induction calls generalizing registry with
  | nil => exact h
  | cons call calls ih => exact ih (isSorted_register h call.1 call.2)

/-- The overloads of a key are those of the registrations of this key, in their order. -/
theorem lookup?_registerAll (h : IsSorted registry.entries) (calls : List (String × Method))
    (k : String) :
    lookup? k (registry.registerAll calls).entries =
      (calls.filter fun call => key call.1 = k).foldl withCall (lookup? k registry.entries) := by
  induction calls generalizing registry with
  | nil => rfl
  | cons call calls ih =>
    show lookup? k ((registry.register call.1 call.2).registerAll calls).entries = _
    rw [ih (isSorted_register h call.1 call.2), lookup?_register h]
    by_cases hk : key call.1 = k <;> simp [hk]

theorem isSorted_empty : IsSorted empty.entries := List.Pairwise.nil

/-- The keys of the registrations are the names of the registry. -/
theorem mem_names_registerAll (calls : List (String × Method)) (k : String) :
    k ∈ (registry.registerAll calls).names ↔
      k ∈ registry.names ∨ ∃ call ∈ calls, key call.1 = k := by
  induction calls generalizing registry with
  | nil => simp [registerAll]
  | cons call calls ih =>
    have hcall : k ∈ (registry.register call.1 call.2).names ↔ k = key call.1 ∨ k ∈ registry.names :=
      mem_insertEntry
    show k ∈ ((registry.register call.1 call.2).registerAll calls).names ↔ _
    rw [ih, hcall, List.exists_mem_cons_iff, or_assoc, eq_comm, or_left_comm]

/-! ## The last registration for a slot -/

/-- The method that was registered last under a name for a slot. -/
def lastFor (calls : List (String × Method)) (name : String) (slot : Slot) : Option Method :=
  (calls.filter fun call => IsSameName call.1 name ∧ call.2.arity.slot = slot).getLast?.map Prod.snd

/-- The last method for a slot fills this slot and was registered under the name. -/
theorem lastFor_eq_some {calls : List (String × Method)} {name : String} {slot : Slot}
    {method : Method} (h : lastFor calls name slot = some method) :
    method.arity.slot = slot ∧ ∃ call ∈ calls, IsSameName call.1 name ∧ call.2 = method := by
  obtain ⟨call, hcall, rfl⟩ := Option.map_eq_some_iff.1 h
  obtain ⟨hmem, hfilter⟩ := List.mem_filter.1 (List.mem_of_getLast? hcall)
  obtain ⟨hname, hslot⟩ := of_decide_eq_true hfilter
  exact ⟨hslot, call, hmem, hname, rfl⟩

/-- Only the registrations for a slot count for the last one of them. -/
theorem lastFor_insert {before after : List (String × Method)} {call : String × Method}
    {name : String} {slot : Slot} (h : IsSameName call.1 name → call.2.arity.slot ≠ slot) :
    lastFor (before ++ call :: after) name slot = lastFor (before ++ after) name slot := by
  have hfilter : ¬(IsSameName call.1 name ∧ call.2.arity.slot = slot) := fun hcall => h hcall.1 hcall.2
  simp [lastFor, List.filter_append, hfilter]

/-- What registrations of one key leave in a slot: the last one for it, or what was there before. -/
theorem slot?_foldl (o : Option Overloads) (calls : List (String × Method)) (slot : Slot) :
    ((calls.foldl withCall o).bind fun o => o.slot? slot) =
      ((calls.filter fun call => call.2.arity.slot = slot).getLast?.map Prod.snd).or
        (o.bind fun o => o.slot? slot) := by
  induction calls generalizing o with
  | nil => rfl
  | cons call calls ih =>
    have hcall : ((withCall o call).bind fun o => o.slot? slot) =
        if call.2.arity.slot = slot then some call.2 else o.bind fun o => o.slot? slot := by
      cases o <;> simp [withCall, Overloads.slot?_insert]
    rw [List.foldl_cons, ih, hcall]
    by_cases hslot : call.2.arity.slot = slot
    · rw [List.filter_cons_of_pos (by simpa using hslot), List.getLast?_cons]
      cases (calls.filter fun call => call.2.arity.slot = slot).getLast? <;> simp [hslot]
    · rw [List.filter_cons_of_neg (by simpa using hslot), if_neg hslot]

/-- **The method in a slot is the one that was registered last for it.** -/
theorem slot?_registerAll (calls : List (String × Method)) (name : String) (slot : Slot) :
    ((lookup? (key name) (empty.registerAll calls).entries).bind fun o => o.slot? slot) =
      lastFor calls name slot := by
  rw [lookup?_registerAll isSorted_empty, slot?_foldl, List.filter_filter]
  simp only [key_eq_iff, lastFor, and_comm, Bool.decide_and]
  exact Option.or_none

end Registry

end LogFilter
