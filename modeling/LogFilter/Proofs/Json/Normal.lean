import Mathlib.Data.String.Basic
import LogFilter.Proofs.Json.Readers

/-!
# Values as they are read

Not every JSON value can be the result of reading: whole numbers are in a range, the names of an
object are in strictly increasing order, and the nesting is limited. Values with these properties are
normal, and whatever is read is normal (`isNormal_of_readValue`).
-/

namespace LogFilter.Json

open Text

/-! ## Fields in order -/

namespace Fields

variable {name : String} {value : Json} {fields : Fields}

/-- The names are in strictly increasing order. -/
def IsSorted (fields : Fields) : Prop := (fields.map Prod.fst).Pairwise (· < ·)

theorem mem_insert {field : String × Json} (h : field ∈ fields.insert name value) :
    field = (name, value) ∨ field ∈ fields := by
  induction fields with
  | nil => exact .inl (List.mem_singleton.1 h)
  | cons p r ih =>
    obtain ⟨n, v⟩ := p
    rw [insert] at h
    split at h
    · exact List.mem_cons.1 h
    · exact (List.mem_cons.1 h).imp id (List.mem_cons_of_mem _)
    · rcases List.mem_cons.1 h with rfl | h
      · exact .inr List.mem_cons_self
      · exact (ih h).imp id (List.mem_cons_of_mem _)

theorem IsSorted.insert (h : IsSorted fields) : IsSorted (fields.insert name value) := by
  induction fields with
  | nil => exact List.pairwise_singleton _ _
  | cons p r ih =>
    obtain ⟨n, v⟩ := p
    obtain ⟨hn, hr⟩ := List.pairwise_cons.1 h
    rw [Fields.insert]
    split
    · next hlt =>
      have hlt : name < n := compare_lt_iff_lt.1 hlt
      refine List.pairwise_cons.2 ⟨fun k hk => ?_, h⟩
      rcases List.mem_cons.1 hk with rfl | hk
      · exact hlt
      · exact hlt.trans (hn k hk)
    · next heq =>
      obtain rfl : name = n := Std.LawfulEqOrd.eq_of_compare heq
      exact List.pairwise_cons.2 ⟨hn, hr⟩
    · next hgt =>
      have hgt : n < name := compare_gt_iff_gt.1 hgt
      refine List.pairwise_cons.2 ⟨fun k hk => ?_, ih hr⟩
      obtain ⟨field, hfield, rfl⟩ := List.mem_map.1 hk
      rcases mem_insert hfield with rfl | hfield
      · exact hgt
      · exact hn _ (List.mem_map_of_mem hfield)

/-- A name behind all others goes to the end. -/
theorem insert_of_lt (h : ∀ n ∈ fields.map Prod.fst, n < name) :
    fields.insert name value = fields ++ [(name, value)] := by
  induction fields with
  | nil => rfl
  | cons p r ih =>
    obtain ⟨n, v⟩ := p
    have hgt : compare name n = .gt := compare_gt_iff_gt.2 (h n List.mem_cons_self)
    rw [insert, hgt, List.cons_append]
    exact congrArg _ (ih fun k hk => h k (List.mem_cons_of_mem _ hk))

end Fields

/-! ## Normal values -/

/-- Whole numbers fit in 64 bits, with or without a sign. -/
def Number.IsNormal : Number → Prop
  | .int i => -0x8000000000000000 ≤ i ∧ i < 0x10000000000000000
  | .double _ => True

/-- A value as it can be read where at most `depth - 1` arrays and objects may be open at once. -/
inductive IsNormal : Nat → Json → Prop
  | null {depth : Nat} : IsNormal depth .null
  | bool {depth : Nat} {b : Bool} : IsNormal depth (.bool b)
  | number {depth : Nat} {n : Number} (hn : n.IsNormal) : IsNormal depth (.number n)
  | string {depth : Nat} {s : String} : IsNormal depth (.string s)
  | array {depth : Nat} {items : List Json} (hdepth : 1 < depth)
      (hitems : ∀ item ∈ items, IsNormal (depth - 1) item) : IsNormal depth (.array items)
  | object {depth : Nat} {fields : Fields} (hdepth : 1 < depth) (hsorted : fields.IsSorted)
      (hfields : ∀ field ∈ fields, IsNormal (depth - 1) field.2) : IsNormal depth (.object fields)

/-- Fields as they can be read. -/
structure Fields.IsNormal (depth : Nat) (fields : Fields) : Prop where
  sorted : fields.IsSorted
  values : ∀ field ∈ fields, Json.IsNormal depth field.2

theorem Fields.isNormal_nil (depth : Nat) : Fields.IsNormal depth [] :=
  ⟨List.Pairwise.nil, List.forall_mem_nil _⟩

theorem Fields.IsNormal.insert {depth : Nat} {fields : Fields} (h : Fields.IsNormal depth fields)
    (name : String) {value : Json} (hv : Json.IsNormal depth value) :
    Fields.IsNormal depth (fields.insert name value) := by
  refine ⟨h.sorted.insert, fun field hfield => ?_⟩
  rcases Fields.mem_insert hfield with rfl | hfield
  · exact hv
  · exact h.values field hfield

theorem Numeral.isNormal_value {negative : Bool} {numeral : Numeral} {n : Number}
    (h : numeral.value negative = .ok n) : n.IsNormal := by
  unfold value at h
  dsimp only at h
  split at h
  · next hwhole =>
    simp only [Bool.and_eq_true, decide_eq_true_eq] at hwhole
    cases h
    simp only [Number.IsNormal]
    omega
  · split at h
    · next hwhole =>
      simp only [Bool.and_eq_true, decide_eq_true_eq] at hwhole
      cases h
      simp only [Number.IsNormal]
      omega
    · obtain ⟨x, -, rfl⟩ := Except.map_eq_ok.1 h
      trivial

/-! ## What is read -/

theorem isNormal_of_word? {c : Char} {word : List Char} {value : Json} {depth : Nat}
    (h : word? c = some (word, value)) : IsNormal depth value := by
  unfold word? at h
  split at h
  all_goals cases h
  · exact .null
  · exact .bool
  · exact .bool

theorem isNormal_of_readNumber {negative : Bool} {s rest : List Char} {n : Number}
    (h : Gives (readNumber negative s) n rest) : n.IsNormal := by
  obtain ⟨numeral, -, hvalue⟩ := gives_readNumber_iff.1 h
  exact numeral.isNormal_value hvalue

mutual

/-- **A value that is read is normal.** -/
theorem isNormal_of_readValue {depth : Nat} {s rest : List Char} {value : Json}
    (h : Gives (readValue depth s) value rest) : IsNormal depth value := by
  have htakes := gives_readValue_iff.1 h
  generalize hs : skipBlanks s = t at htakes
  cases htakes with
  | word hc _ => exact isNormal_of_word? hc
  | string _ => exact .string
  | negative hr => exact .number (isNormal_of_readNumber hr)
  | number _ hr => exact .number (isNormal_of_readNumber hr)
  | array hdepth hr =>
    have hlt := length_of_skipBlanks hs
    exact .array hdepth (isNormal_of_readItems hr)
  | object hdepth hr =>
    have hlt := length_of_skipBlanks hs
    have hnormal := isNormal_of_readFields hr
    exact .object hdepth hnormal.sorted hnormal.values
termination_by (s.length, 0)

theorem isNormal_of_readItems {depth : Nat} {s rest : List Char} {items : List Json}
    (h : Gives (readItems depth s) items rest) : ∀ item ∈ items, IsNormal depth item := by
  rcases gives_readItems_iff.1 h with ⟨_, rfl⟩ | ⟨_, h⟩
  · exact List.forall_mem_nil _
  · exact isNormal_of_readItemsFrom h
termination_by (s.length, 2)

theorem isNormal_of_readItemsFrom {depth : Nat} {s rest : List Char} {items : List Json}
    (h : Gives (readItemsFrom depth s) items rest) : ∀ item ∈ items, IsNormal depth item := by
  obtain ⟨item, mid, hvalue, h⟩ := gives_readItemsFrom_iff.1 h
  have hitem := isNormal_of_readValue hvalue
  rcases h with ⟨r, more, hs, hmore, rfl⟩ | ⟨-, rfl⟩
  · have hlt := hvalue.length_lt
    have hlt' := length_of_skipBlanks hs
    exact List.forall_mem_cons.2 ⟨hitem, isNormal_of_readItemsFrom hmore⟩
  · exact List.forall_mem_singleton.2 hitem
termination_by (s.length, 1)

theorem isNormal_of_readFields {depth : Nat} {s rest : List Char} {fields : Fields}
    (h : Gives (readFields depth s) fields rest) : Fields.IsNormal depth fields := by
  rcases gives_readFields_iff.1 h with ⟨_, rfl⟩ | ⟨_, h⟩
  · exact Fields.isNormal_nil depth
  · exact isNormal_of_readFieldsFrom (Fields.isNormal_nil depth) h
termination_by (s.length, 2)

theorem isNormal_of_readFieldsFrom {depth : Nat} {s rest : List Char} {before fields : Fields}
    (hbefore : Fields.IsNormal depth before)
    (h : Gives (readFieldsFrom depth before s) fields rest) : Fields.IsNormal depth fields := by
  obtain ⟨name, afterName, value, mid, hname, hvalue, h⟩ := gives_readFieldsFrom_iff.1 h
  have hlt := hname.length_lt
  have hinsert := hbefore.insert name (isNormal_of_readValue hvalue)
  rcases h with ⟨r, hs, hmore⟩ | ⟨-, rfl⟩
  · have hlt' := hvalue.length_lt
    have hlt'' := length_of_skipBlanks hs
    exact isNormal_of_readFieldsFrom hinsert hmore
  · exact hinsert
termination_by (s.length, 1)

end

end LogFilter.Json
