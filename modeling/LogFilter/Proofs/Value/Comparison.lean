import LogFilter.Proofs.Value.Promotion

/-!
# The rule of comparison

How values of different kinds are compared, with the operands in either order:

* integers and other whole numbers as whole numbers, but truth values and levels not at all,
* a double and a whole number as doubles,
* a string and another value in the kind of the other value if the string can be read so, else as
  texts, and always as texts if the other value is an exception,
* dates and exceptions with nothing else.

`Value.comparison_follows_rule` says that `Value.satisfies` follows this rule, that the operands may
change places, and that a missing common kind is a matter of the kinds alone.
-/

namespace LogFilter.Value

/-! ## The rule -/

/-- The comparison of a string, on either side, and another value. -/
def satisfiesByReading (relation : Relation) (l r : Value) : Except CompareError Bool :=
  let asTexts := .ok (relation.holds (compare l.text r.text))
  if l.kind = .string then
    match l.convert? r.kind with
    | some v => compareSameKind relation v r
    | none => asTexts
  else
    match r.convert? l.kind with
    | some v => compareSameKind relation l v
    | none => asTexts

/-- The comparison of two values that are not null, by the way in which their kinds meet. -/
def satisfiesByRule (relation : Relation) (l r : Value) : Except CompareError Bool :=
  match l.kind.meeting r.kind with
  | .inKind => compareSameKind relation l r
  | .asWholes => .ok (relation.holds (compare l.whole r.whole))
  | .asDoubles => .ok (relation.holds (Decimal.compareDoubles l.double r.double))
  | .byReading => satisfiesByReading relation l r
  | .asTexts => .ok (relation.holds (compare l.text r.text))
  | .apart => .error (.noCommonKind l.kind r.kind)

section

variable {l r : Value} (hl : l.kind ≠ .null) (hr : r.kind ≠ .null) (relation : Relation)

include hl hr

theorem satisfies_eq_promote :
    satisfies relation l r = promote l r >>= fun p => compareSameKind relation p.1 p.2 := by
  cases l with
  | null => exact absurd rfl hl
  | _ =>
    cases r with
    | null => exact absurd rfl hr
    | _ => rfl

theorem satisfies_of_promote {a b : Value} (h : promote l r = .ok (a, b)) :
    satisfies relation l r = compareSameKind relation a b := by
  rw [satisfies_eq_promote hl hr, h]
  rfl

/-! ## The ways to meet -/

theorem satisfies_inKind (h : l.kind.meeting r.kind = .inKind) :
    satisfies relation l r = compareSameKind relation l r := by
  have hk : l.kind = r.kind := Kind.of_meeting_inKind h
  exact satisfies_of_promote hl hr relation (if_pos hk)

/-- An integer and another whole number are compared as whole numbers. -/
theorem satisfies_asWholes (h : l.kind.meeting r.kind = .asWholes) :
    satisfies relation l r = .ok (relation.holds (compare l.whole r.whole)) := by
  rcases Kind.of_meeting_asWholes h with ⟨hk, hw, hp⟩ | ⟨hk, hw, hp⟩
  · cases l with
    | int i =>
      rw [satisfies_of_promote hl hr relation (promote_right hp (convert?_int hw))]
      -- the conversion to an integer loses nothing of the other number
      show Except.ok (relation.holds (compare i.toInt (Int64.ofInt r.whole).toInt)) = _
      rw [toInt_ofInt_whole hw]
      rfl
    | _ => exact absurd hk (by simp [kind])
  · cases r with
    | int i =>
      rw [satisfies_of_promote hl hr relation (promote_left hp (convert?_int hw))]
      show Except.ok (relation.holds (compare (Int64.ofInt l.whole).toInt i.toInt)) = _
      rw [toInt_ofInt_whole hw]
      rfl
    | _ => exact absurd hk (by simp [kind])

/-- A double and a whole number are compared as doubles. -/
theorem satisfies_asDoubles (h : l.kind.meeting r.kind = .asDoubles) :
    satisfies relation l r = .ok (relation.holds (Decimal.compareDoubles l.double r.double)) := by
  rcases Kind.of_meeting_asDoubles h with ⟨hk, hw, hp⟩ | ⟨hk, hw, hp⟩
  · cases l with
    | float x => exact satisfies_of_promote hl hr relation (promote_right hp (convert?_float hw))
    | _ => exact absurd hk (by simp [kind])
  · cases r with
    | float x => exact satisfies_of_promote hl hr relation (promote_left hp (convert?_float hw))
    | _ => exact absurd hk (by simp [kind])

/-- A string is read in the kind of the other value. Where it cannot be read so, the other value
becomes its text. -/
theorem satisfies_byReading (h : l.kind.meeting r.kind = .byReading) :
    satisfies relation l r = satisfiesByReading relation l r := by
  rcases Kind.of_meeting_byReading hl hr h with ⟨hs, _, hp⟩ | ⟨hs, hne, hp⟩
  · rw [satisfiesByReading, if_pos hs]
    cases l with
    | string s =>
      cases hread : (string s).convert? r.kind with
      | some v => exact satisfies_of_promote hl hr relation (promote_left hp hread)
      | none =>
        have hpromote := promote_right_instead hp hread (convert?_string hr)
        exact satisfies_of_promote hl hr relation hpromote
    | _ => exact absurd hs (by simp [kind])
  · rw [satisfiesByReading, if_neg hne]
    cases r with
    | string s =>
      cases hread : (string s).convert? l.kind with
      | some v => exact satisfies_of_promote hl hr relation (promote_right hp hread)
      | none =>
        have hpromote := promote_left_instead hp hread (convert?_string hl)
        exact satisfies_of_promote hl hr relation hpromote
    | _ => exact absurd hs (by simp [kind])

/-- An exception next to a string becomes its text. -/
theorem satisfies_asTexts (h : l.kind.meeting r.kind = .asTexts) :
    satisfies relation l r = .ok (relation.holds (compare l.text r.text)) := by
  rcases Kind.of_meeting_asTexts h with ⟨hs, _, hp⟩ | ⟨hs, _, hp⟩
  · cases l with
    | string s => exact satisfies_of_promote hl hr relation (promote_right hp (convert?_string hr))
    | _ => exact absurd hs (by simp [kind])
  · cases r with
    | string s => exact satisfies_of_promote hl hr relation (promote_left hp (convert?_string hl))
    | _ => exact absurd hs (by simp [kind])

theorem satisfies_apart (h : l.kind.Apart r.kind) :
    satisfies relation l r = .error (.noCommonKind l.kind r.kind) := by
  have hpromote := promote_apart h.1 (convert?_of_apart h) (convert?_of_apart h.symm)
  rw [satisfies_eq_promote hl hr, hpromote]
  rfl

theorem satisfies_eq_byRule : satisfies relation l r = satisfiesByRule relation l r := by
  unfold satisfiesByRule
  cases hm : l.kind.meeting r.kind with
  | inKind => exact satisfies_inKind hl hr relation hm
  | asWholes => exact satisfies_asWholes hl hr relation hm
  | asDoubles => exact satisfies_asDoubles hl hr relation hm
  | byReading => exact satisfies_byReading hl hr relation hm
  | asTexts => exact satisfies_asTexts hl hr relation hm
  | apart => exact satisfies_apart hl hr relation ((Kind.meeting_eq_apart_iff hl hr).1 hm)

end

/-! ## The order of the operands -/

theorem satisfiesByReading_converse (relation : Relation) {l r : Value}
    (h : l.kind = .string ∧ r.kind ≠ .string ∨ r.kind = .string ∧ l.kind ≠ .string) :
    satisfiesByReading relation.converse r l =
      (satisfiesByReading relation l r).mapError CompareError.mirror := by
  have htexts : relation.converse.holds (compare r.text l.text) =
      relation.holds (compare l.text r.text) := by
    rw [Std.OrientedOrd.eq_swap, Relation.holds_converse]
  unfold satisfiesByReading
  rcases h with ⟨hl, hr⟩ | ⟨hr, hl⟩
  · rw [if_neg hr, if_pos hl]
    cases l.convert? r.kind with
    | some v => exact compareSameKind_converse relation v r
    | none => exact congrArg Except.ok htexts
  · rw [if_pos hr, if_neg hl]
    cases r.convert? l.kind with
    | some v => exact compareSameKind_converse relation l v
    | none => exact congrArg Except.ok htexts

/-- The rule is the same in both orders. -/
theorem satisfiesByRule_converse {l r : Value} (hl : l.kind ≠ .null) (hr : r.kind ≠ .null)
    (relation : Relation) :
    satisfiesByRule relation.converse r l =
      (satisfiesByRule relation l r).mapError CompareError.mirror := by
  unfold satisfiesByRule
  rw [Kind.meeting_comm r.kind l.kind]
  cases hm : l.kind.meeting r.kind with
  | inKind => exact compareSameKind_converse relation l r
  | asWholes =>
    show Except.ok _ = Except.ok _
    rw [Std.OrientedOrd.eq_swap, Relation.holds_converse]
  | asDoubles =>
    show Except.ok _ = Except.ok _
    rw [Decimal.compareDoubles_swap l.double, Relation.holds_converse]
  | byReading =>
    refine satisfiesByReading_converse relation ?_
    exact (Kind.of_meeting_byReading hl hr hm).imp (fun h => ⟨h.1, h.2.1⟩) fun h => ⟨h.1, h.2.1⟩
  | asTexts =>
    show Except.ok _ = Except.ok _
    rw [Std.OrientedOrd.eq_swap, Relation.holds_converse]
  | apart => rfl

/-! ## Missing common kinds -/

theorem satisfiesByReading_ne_noCommonKind {l r : Value} (hl : l.kind ≠ .null)
    (hr : r.kind ≠ .null) (relation : Relation) (a b : Kind) :
    satisfiesByReading relation l r ≠ .error (.noCommonKind a b) := by
  unfold satisfiesByReading
  split
  · split
    · next v hv =>
      have hk : v.kind = r.kind := kind_of_convert? hv
      exact compareSameKind_ne_noCommonKind hk (hk ▸ hr) relation a b
    · simp
  · split
    · next v hv =>
      exact compareSameKind_ne_noCommonKind (kind_of_convert? hv).symm hl relation a b
    · simp

/-- A common kind is missing exactly if the kinds have nothing in common, whatever the values. -/
theorem satisfiesByRule_eq_noCommonKind_iff {l r : Value} (hl : l.kind ≠ .null)
    (hr : r.kind ≠ .null) (relation : Relation) (a b : Kind) :
    satisfiesByRule relation l r = .error (.noCommonKind a b) ↔
      l.kind.Apart r.kind ∧ a = l.kind ∧ b = r.kind := by
  rw [← Kind.meeting_eq_apart_iff hl hr]
  unfold satisfiesByRule
  cases hm : l.kind.meeting r.kind with
  | inKind =>
    have hne := compareSameKind_ne_noCommonKind (Kind.of_meeting_inKind hm) hl relation a b
    simpa using hne
  | byReading => simpa using satisfiesByReading_ne_noCommonKind hl hr relation a b
  | apart => simp [eq_comm]
  | _ => simp

/-- **Values are compared by the rule**, the operands may change places with the converse operator,
and a common kind is missing exactly if the kinds have nothing in common. Otherwise both values are
promoted to one kind. -/
theorem comparison_follows_rule {l r : Value} (hl : l.kind ≠ .null) (hr : r.kind ≠ .null)
    (relation : Relation) :
    satisfies relation l r = satisfiesByRule relation l r ∧
      satisfies relation.converse r l =
        (satisfies relation l r).mapError CompareError.mirror ∧
      (∀ a b, satisfies relation l r = .error (.noCommonKind a b) ↔
        l.kind.Apart r.kind ∧ a = l.kind ∧ b = r.kind) ∧
      ∀ p, promote l r = .ok p → p.1.kind = p.2.kind := by
  have hrule := satisfies_eq_byRule hl hr relation
  refine ⟨hrule, ?_, fun a b => ?_, fun p => promote_kind⟩
  · rw [hrule, satisfies_eq_byRule hr hl, satisfiesByRule_converse hl hr]
  · rw [hrule, satisfiesByRule_eq_noCommonKind_iff hl hr]

/-- A string that is no level and a level are compared as texts. -/
theorem comparison_follows_rule_level :
    satisfies .less (level .info) (string "later") = .ok true ∧
      satisfies .greater (string "later") (level .info) = .ok true := by
  have hrule := comparison_follows_rule (l := level .info) (r := string "later") (by decide)
    (by decide) .less
  have hless : satisfies .less (level .info) (string "later") = .ok true := by
    rw [hrule.1]
    rfl
  exact ⟨hless, hrule.2.1.trans (congrArg (Except.mapError CompareError.mirror) hless)⟩

end LogFilter.Value
