import LogFilter.Proofs.Value.Order

/-!
# Promotion to one kind

How two values that are not null are brought to one kind is mostly a matter of their kinds, which
`Kind.meeting` puts without the ranks and the attempts of `promote`, and so that both orders of the
kinds are seen to be the same.

`Value.promote_kind` says that promotion always ends in one kind. The branch of `compareSameKind`
for values of different kinds is therefore never taken.
-/

namespace LogFilter

/-- How values of two kinds are compared. -/
inductive Meeting
  /-- In the kind that both have. -/
  | inKind
  | asWholes
  | asDoubles
  /-- In the kind of one if the other, a string, can be read so, else as texts. -/
  | byReading
  | asTexts
  /-- Not at all. -/
  | apart
  deriving DecidableEq, Repr

namespace Kind

/-- Kinds of which the values stand for whole numbers. -/
def isWhole : Kind → Bool
  | int | bool | level => true
  | _ => false

/-- How values of two kinds meet, if neither is null. -/
def meeting (a b : Kind) : Meeting :=
  if a = b then .inKind
  else if a = string ∨ b = string then
    if a = exception ∨ b = exception then .asTexts else .byReading
  else if a.isWhole ∧ b.isWhole then if a = int ∨ b = int then .asWholes else .apart
  else if a = float ∧ b.isWhole ∨ b = float ∧ a.isWhole then .asDoubles
  else .apart

/-- **How kinds meet does not depend on their order.** -/
theorem meeting_comm (a b : Kind) : a.meeting b = b.meeting a := by
  cases a <;> cases b <;> rfl

/-- Different kinds that have nothing in common: neither is that of strings, and one is that of
dates or of exceptions, or they are those of truth values and of levels. -/
def Apart (a b : Kind) : Prop :=
  a ≠ b ∧ a ≠ string ∧ b ≠ string ∧
    (a = date ∨ a = exception ∨ b = date ∨ b = exception ∨
      a = bool ∧ b = level ∨ a = level ∧ b = bool)

instance (a b : Kind) : Decidable (a.Apart b) := inferInstanceAs (Decidable (_ ∧ _))

theorem Apart.symm {a b : Kind} (h : a.Apart b) : b.Apart a := by
  obtain ⟨hne, ha, hb, h⟩ := h
  refine ⟨hne.symm, hb, ha, ?_⟩
  rcases h with h | h | h | h | ⟨h, h'⟩ | ⟨h, h'⟩ <;> simp [*]

theorem meeting_eq_apart_iff {a b : Kind} (ha : a ≠ null) (hb : b ≠ null) :
    a.meeting b = .apart ↔ a.Apart b := by
  cases a <;> cases b <;> first | exact absurd rfl ha | exact absurd rfl hb | decide

/-! ## Ranks

Of two kinds that meet, the one in which they do comes first.
-/

theorem precedes_ne {a b : Kind} (h : a.precedes b = true) : a ≠ b := by
  rintro rfl
  cases a <;> exact absurd h (by decide)

theorem precedes_asymm {a b : Kind} (h : a.precedes b = true) : b.precedes a = false := by
  cases a <;> cases b <;> first | rfl | exact absurd h (by decide)

theorem of_meeting_inKind {a b : Kind} (h : a.meeting b = .inKind) : a = b := by
  cases a <;> cases b <;> first | rfl | exact absurd h (by decide)

theorem of_meeting_asWholes {a b : Kind} (h : a.meeting b = .asWholes) :
    a = int ∧ b.isWhole = true ∧ a.precedes b = true ∨
      b = int ∧ a.isWhole = true ∧ b.precedes a = true := by
  cases a <;> cases b <;> first | decide | exact absurd h (by decide)

theorem of_meeting_asDoubles {a b : Kind} (h : a.meeting b = .asDoubles) :
    a = float ∧ b.isWhole = true ∧ a.precedes b = true ∨
      b = float ∧ a.isWhole = true ∧ b.precedes a = true := by
  cases a <;> cases b <;> first | decide | exact absurd h (by decide)

/-- Every kind that a string can be read in comes before that of strings. -/
theorem of_meeting_byReading {a b : Kind} (ha : a ≠ null) (hb : b ≠ null)
    (h : a.meeting b = .byReading) :
    a = string ∧ b ≠ string ∧ b.precedes a = true ∨
      b = string ∧ a ≠ string ∧ a.precedes b = true := by
  cases a <;> cases b <;>
    first | exact absurd rfl ha | exact absurd rfl hb | decide | exact absurd h (by decide)

/-- Exceptions come after strings. -/
theorem of_meeting_asTexts {a b : Kind} (h : a.meeting b = .asTexts) :
    a = string ∧ b = exception ∧ a.precedes b = true ∨
      b = string ∧ a = exception ∧ b.precedes a = true := by
  cases a <;> cases b <;> first | decide | exact absurd h (by decide)

end Kind

namespace Value

/-! ## Conversions -/

/-- What a value is converted to has the kind that was asked for. -/
theorem kind_of_convert? {v w : Value} {kind : Kind} (h : v.convert? kind = some w) :
    w.kind = kind := by
  unfold convert? at h
  split at h
  · next hk => rw [← Option.some.inj h, hk]
  · unfold convertOther? at h
    split at h <;> first
      | (obtain ⟨x, _, rfl⟩ := Option.map_eq_some_iff.1 h; rfl)
      | (rw [← Option.some.inj h]; rfl)
      | cases h

theorem convert?_self {v : Value} {kind : Kind} (h : v.kind = kind) : v.convert? kind = some v :=
  if_pos h

/-- Between kinds that have nothing in common there is no conversion, whatever the value. -/
theorem convert?_of_apart {v : Value} {kind : Kind} (h : v.kind.Apart kind) :
    v.convert? kind = none := by
  cases v <;> cases kind <;> simp [Value.kind, Kind.Apart] at h <;> rfl

/-- All values have a text. -/
theorem convert?_string {v : Value} (h : v.kind ≠ .null) :
    v.convert? .string = some (string v.text) := by
  cases v with
  | null => exact absurd rfl h
  | _ => rfl

/-- The whole number that a value stands for. -/
def whole : Value → Int
  | int i => i.toInt
  | bool b => boolNumber b
  | level l => l.ordinal
  | _ => 0

/-- The double that a value stands for. -/
def double : Value → Float
  | float x => x
  | v => Decimal.ofInt v.whole

/-- What a value stands for fits into an integer. -/
theorem toInt_ofInt_whole {v : Value} (h : v.kind.isWhole = true) :
    (Int64.ofInt v.whole).toInt = v.whole := by
  cases v with
  | int i => rw [whole, Int64.ofInt_toInt]
  | bool b => cases b <;> rfl
  | level l => cases l <;> rfl
  | _ => exact absurd h (by simp [kind, Kind.isWhole])

theorem convert?_int {v : Value} (h : v.kind.isWhole = true) :
    v.convert? .int = some (int (Int64.ofInt v.whole)) := by
  cases v with
  | int i =>
    rw [whole, Int64.ofInt_toInt]
    exact convert?_self rfl
  | bool b => rfl
  | level l => rfl
  | _ => exact absurd h (by simp [kind, Kind.isWhole])

theorem convert?_float {v : Value} (h : v.kind.isWhole = true) :
    v.convert? .float = some (float v.double) := by
  cases v with
  | int i => rfl
  | bool b => rfl
  | level l => rfl
  | _ => exact absurd h (by simp [kind, Kind.isWhole])

/-! ## Promotion -/

/-- **Values are promoted to one kind.** -/
theorem promote_kind {l r : Value} {p : Value × Value} (h : promote l r = .ok p) :
    p.1.kind = p.2.kind := by
  -- whichever of the two attempts succeeds, one value gets the kind of the other
  have hright : ∀ {q : Value × Value}, convertRight? l r = some q → q.1.kind = q.2.kind := by
    intro q hq
    obtain ⟨w, hw, rfl⟩ := Option.map_eq_some_iff.1 hq
    exact (kind_of_convert? hw).symm
  have hleft : ∀ {q : Value × Value}, convertLeft? l r = some q → q.1.kind = q.2.kind := by
    intro q hq
    obtain ⟨w, hw, rfl⟩ := Option.map_eq_some_iff.1 hq
    exact kind_of_convert? hw
  unfold promote at h
  split at h
  · next hk =>
    rw [← Except.ok.inj h]
    exact hk
  simp only at h
  split at h
  · next q hq =>
    obtain rfl := Except.ok.inj h
    have either : ∀ {a b : Option (Value × Value)},
        (a <|> b) = some q → a = some q ∨ b = some q := by
      intro a b hab
      rw [Option.orElse_eq_orElse, Option.orElse_eq_or, Option.or_eq_some_iff] at hab
      exact hab.imp_right And.right
    split at hq
    · rcases either hq with hq | hq
      · exact hright hq
      · exact hleft hq
    · rcases either hq with hq | hq
      · exact hleft hq
      · exact hright hq
  · exact absurd h (by simp)

/-! ## Promotion by rank -/

section

variable {l r w : Value}

theorem promote_of_precedes (hk : l.kind.precedes r.kind = true) :
    promote l r = (convertRight? l r <|> convertLeft? l r).elim
      (.error (.noCommonKind l.kind r.kind)) .ok := by
  unfold promote
  simp only [if_neg (Kind.precedes_ne hk), if_pos hk]
  cases convertRight? l r <|> convertLeft? l r <;> rfl

theorem promote_of_not_precedes (hne : l.kind ≠ r.kind) (hk : l.kind.precedes r.kind = false) :
    promote l r = (convertLeft? l r <|> convertRight? l r).elim
      (.error (.noCommonKind l.kind r.kind)) .ok := by
  unfold promote
  simp only [if_neg hne, hk, Bool.false_eq_true, if_false]
  cases convertLeft? l r <|> convertRight? l r <;> rfl

/-- The right value becomes one of the kind on the left, which comes first. -/
theorem promote_right (hk : l.kind.precedes r.kind = true) (hr : r.convert? l.kind = some w) :
    promote l r = .ok (l, w) := by
  rw [promote_of_precedes hk, convertRight?, hr]
  rfl

/-- The left value becomes one of the kind on the right, which comes first. -/
theorem promote_left (hk : r.kind.precedes l.kind = true) (hl : l.convert? r.kind = some w) :
    promote l r = .ok (w, r) := by
  rw [promote_of_not_precedes (Kind.precedes_ne hk).symm (Kind.precedes_asymm hk), convertLeft?, hl]
  rfl

theorem promote_left_instead (hk : l.kind.precedes r.kind = true) (hr : r.convert? l.kind = none)
    (hl : l.convert? r.kind = some w) : promote l r = .ok (w, r) := by
  rw [promote_of_precedes hk, convertRight?, convertLeft?, hr, hl]
  rfl

theorem promote_right_instead (hk : r.kind.precedes l.kind = true) (hl : l.convert? r.kind = none)
    (hr : r.convert? l.kind = some w) : promote l r = .ok (l, w) := by
  rw [promote_of_not_precedes (Kind.precedes_ne hk).symm (Kind.precedes_asymm hk), convertLeft?,
    convertRight?, hl, hr]
  rfl

theorem promote_apart (hne : l.kind ≠ r.kind) (hl : l.convert? r.kind = none)
    (hr : r.convert? l.kind = none) : promote l r = .error (.noCommonKind l.kind r.kind) := by
  cases hk : l.kind.precedes r.kind with
  | true =>
    rw [promote_of_precedes hk, convertLeft?, convertRight?, hl, hr]
    rfl
  | false =>
    rw [promote_of_not_precedes hne hk, convertLeft?, convertRight?, hl, hr]
    rfl

end

end Value

end LogFilter
