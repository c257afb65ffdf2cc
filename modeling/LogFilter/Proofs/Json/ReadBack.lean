import LogFilter.Json.Printer
import LogFilter.Proofs.Decimal.Numeral
import LogFilter.Proofs.Json.Normal
import LogFilter.Proofs.Text.Runs

/-!
# Values that are read back

A normal value is read back from its compact text, if its doubles are: `isReadBack_of_isNormal`. All
that is needed of the text that follows is that a number does not go on there. Not every double is
read back, because the reader takes one rounding step too many for some numerals.
-/

namespace LogFilter.Json

open Text Decimal

/-! ## Strings -/

theorem hexDigit?_hexDigit {n : Nat} (h : n < 16) : hexDigit? (hexDigit n) = some n := by
  have hall : ∀ n < 16, hexDigit? (hexDigit n) = some n := by decide
  exact hall n h

theorem hex4?_hexDigit {n : Nat} (h : n < 0x20) :
    hex4? '0' '0' (hexDigit (n / 16)) (hexDigit (n % 16)) = some n := by
  have hzero : hexDigit? '0' = some 0 := by decide
  have hvalue : ((0 * 16 + 0) * 16 + n / 16) * 16 + n % 16 = n := by omega
  simp only [hex4?, hzero, hexDigit?_hexDigit (show n / 16 < 16 by omega),
    hexDigit?_hexDigit (show n % 16 < 16 by omega), Option.bind_eq_bind, Option.bind_some, hvalue]

/-- The escape of a character stands for the character. -/
theorem stringBody_escapeChar (c : Char) (rest : List Char) :
    stringBody (escapeChar c ++ rest) = (stringBody rest).map fun p => (c :: p.1, p.2) := by
  unfold escapeChar
  split
  · rfl
  · rfl
  · rfl
  · rfl
  · rfl
  · rfl
  · rfl
  next hquote hbackslash _ _ _ _ _ =>
  split
  · next hlow =>
    have hsurrogate : isLowSurrogate c.toNat = false ∧ isHighSurrogate c.toNat = false := by
      simp only [isLowSurrogate, isHighSurrogate, Bool.and_eq_false_iff, decide_eq_false_iff_not]
      omega
    simp only [List.cons_append, List.nil_append, stringBody, hex4?_hexDigit hlow, hsurrogate,
      Char.ofNat_toNat]
    rfl
  · next hlow =>
    rw [List.singleton_append, stringBody]
    · rw [if_neg]
      simpa [hlow] using hbackslash
    all_goals simp_all

theorem stringBody_quoted (cs rest : List Char) :
    stringBody (cs.flatMap escapeChar ++ '"' :: rest) = .ok (cs, rest) := by
  induction cs with
  | nil => rfl
  | cons c cs ih =>
    rw [List.flatMap_cons, List.append_assoc, stringBody_escapeChar, ih]
    rfl

theorem quoted_append (s : String) (rest : List Char) :
    quoted s ++ rest = '"' :: (s.toList.flatMap escapeChar ++ '"' :: rest) := by
  simp [quoted]

theorem gives_readString_quoted (s : String) (rest : List Char) :
    Gives (readString (s.toList.flatMap escapeChar ++ '"' :: rest)) s rest :=
  gives_readString_iff.2 (stringBody_quoted s.toList rest)

/-! ## Numbers -/

/-- The characters with which a number can go on. -/
def continuesNumber (c : Char) : Bool := c.isDigit || c = '.' || c = 'e' || c = 'E'

section

variable {α : Type} {s r ds rest : List Char}

theorem stops_isDigit (h : Stops continuesNumber rest) : Stops Char.isDigit rest := by
  intro c hc
  have hcontinues := h c hc
  simp only [continuesNumber, Bool.or_eq_false_iff] at hcontinues
  exact hcontinues.1.1.1

theorem takeDigits_append (hrest : Stops continuesNumber rest) (h : takeDigits s = .ok (ds, r)) :
    takeDigits (s ++ rest) = .ok (ds, r ++ rest) := by
  unfold takeDigits at h ⊢
  rw [takeWhile_append_of_stops_right (stops_isDigit hrest),
    dropWhile_append_of_stops_right (stops_isDigit hrest)]
  split at h
  · cases h
  · next hne =>
    cases h
    rfl

theorem takeWhole_append (hrest : Stops continuesNumber rest) (h : takeWhole s = .ok (ds, r)) :
    takeWhole (s ++ rest) = .ok (ds, r ++ rest) := by
  obtain ⟨⟨ds', r'⟩, hdigits, hzero⟩ := Except.bind_eq_ok.1 h
  refine Except.bind_eq_ok.2 ⟨_, takeDigits_append hrest hdigits, ?_⟩
  dsimp only at hzero ⊢
  split at hzero
  · cases hzero
  · next hlead =>
    cases hzero
    rw [if_neg hlead]

theorem takeFraction_of_head? (h : s.head? ≠ some '.') : takeFraction s = .ok (none, s) := by
  unfold takeFraction
  split
  · exact absurd rfl h
  · rfl

theorem takeFraction_of_stops (h : Stops continuesNumber rest) :
    takeFraction rest = .ok (none, rest) :=
  takeFraction_of_head? fun hpoint => absurd (h '.' hpoint) (by decide)

theorem takeExponent_of_stops (h : Stops continuesNumber rest) :
    takeExponent rest = .ok (none, rest) := by
  unfold takeExponent
  split
  · next c r =>
    have hc := h c rfl
    simp only [continuesNumber, Bool.or_eq_false_iff] at hc
    simp [hc]
  · rfl

theorem takeFraction_append {fraction : Option (List Char)} (hrest : Stops continuesNumber rest)
    (h : takeFraction s = .ok (fraction, r)) :
    takeFraction (s ++ rest) = .ok (fraction, r ++ rest) := by
  cases s with
  | nil =>
    cases h
    exact takeFraction_of_stops hrest
  | cons c t =>
    by_cases hc : c = '.'
    · subst hc
      obtain ⟨⟨ds, r'⟩, hdigits, hok⟩ := Except.bind_eq_ok.1 h
      cases hok
      exact Except.bind_eq_ok.2 ⟨_, takeDigits_append hrest hdigits, rfl⟩
    · have hhead (u : List Char) : (c :: u).head? ≠ some '.' := by simpa using hc
      rw [takeFraction_of_head? (hhead t)] at h
      cases h
      exact takeFraction_of_head? (hhead (t ++ rest))

theorem readSign_cons_append (c : Char) (t rest : List Char) :
    readSign (c :: t ++ rest) = ((readSign (c :: t)).1, (readSign (c :: t)).2 ++ rest) := by
  by_cases hminus : c = '-'
  · rw [hminus]
    rfl
  by_cases hplus : c = '+'
  · rw [hplus]
    rfl
  · simp [readSign, hminus, hplus]

theorem takeExponent_append {exponent : Option (Bool × List Char)}
    (hrest : Stops continuesNumber rest) (h : takeExponent s = .ok (exponent, r)) :
    takeExponent (s ++ rest) = .ok (exponent, r ++ rest) := by
  cases s with
  | nil =>
    cases h
    exact takeExponent_of_stops hrest
  | cons c t =>
    rw [takeExponent] at h
    rw [List.cons_append, takeExponent]
    by_cases hc : (c = 'e' || c = 'E') = true
    · rw [if_pos hc] at h ⊢
      obtain ⟨⟨ds, r'⟩, hdigits, hok⟩ := Except.bind_eq_ok.1 h
      cases hok
      cases t with
      | nil => cases hdigits
      | cons d t =>
        rw [readSign_cons_append]
        exact Except.bind_eq_ok.2 ⟨_, takeDigits_append hrest hdigits, rfl⟩
    · rw [if_neg hc] at h ⊢
      cases h
      rfl

theorem takeNumeral_append {numeral : Numeral} (hrest : Stops continuesNumber rest)
    (h : takeNumeral s = .ok (numeral, r)) :
    takeNumeral (s ++ rest) = .ok (numeral, r ++ rest) := by
  obtain ⟨⟨whole, s₁⟩, hwhole, h⟩ := Except.bind_eq_ok.1 h
  obtain ⟨⟨fraction, s₂⟩, hfraction, h⟩ := Except.bind_eq_ok.1 h
  obtain ⟨⟨exponent, s₃⟩, hexponent, hok⟩ := Except.bind_eq_ok.1 h
  cases hok
  refine Except.bind_eq_ok.2 ⟨_, takeWhole_append hrest hwhole, ?_⟩
  refine Except.bind_eq_ok.2 ⟨_, takeFraction_append hrest hfraction, ?_⟩
  exact Except.bind_eq_ok.2 ⟨_, takeExponent_append hrest hexponent, rfl⟩

theorem gives_readNumber_append {negative : Bool} {n : Number} (hrest : Stops continuesNumber rest)
    (h : Gives (readNumber negative s) n r) :
    Gives (readNumber negative (s ++ rest)) n (r ++ rest) := by
  obtain ⟨numeral, hnumeral, hvalue⟩ := gives_readNumber_iff.1 h
  exact gives_readNumber_iff.2 ⟨numeral, takeNumeral_append hrest hnumeral, hvalue⟩

theorem skipBlanks_cons {c : Char} (hc : isJsonBlank c = false) (t : List Char) :
    skipBlanks (c :: t) = c :: t :=
  List.dropWhile_cons_of_neg (by simpa using hc)

theorem not_isJsonBlank_of_isDigit {c : Char} (h : c.isDigit = true) : isJsonBlank c = false := by
  have hall : ∀ n ∈ List.range' 48 10, isJsonBlank (Char.ofNat n) = false := by decide
  have hc := hall c.toNat (toNat_mem_of_isDigit h)
  rwa [Char.ofNat_toNat] at hc

theorem skipBlanks_append_of_cons {c : Char} {t : List Char} (h : skipBlanks s = c :: t) :
    skipBlanks (s ++ rest) = c :: (t ++ rest) := by
  unfold skipBlanks at h ⊢
  rw [List.dropWhile_append, h]
  rfl

theorem word?_ne_number {c : Char} {word : List Char} {n : Number} :
    word? c ≠ some (word, .number n) := by
  unfold word?
  split
  all_goals simp

/-- A number is read in the same way where it does not go on, however deep it is nested. -/
theorem gives_readValue_append {n : Number} {depth depth' : Nat}
    (hrest : Stops continuesNumber rest) (h : Gives (readValue depth s) (.number n) r) :
    Gives (readValue depth' (s ++ rest)) (.number n) (r ++ rest) := by
  have htakes := gives_readValue_iff.1 h
  refine gives_readValue_iff.2 ?_
  generalize hs : skipBlanks s = t at htakes
  cases htakes with
  | word hc _ => exact absurd hc word?_ne_number
  | negative hr =>
    rw [skipBlanks_append_of_cons hs]
    exact .negative (gives_readNumber_append hrest hr)
  | number hc hr =>
    rw [skipBlanks_append_of_cons hs]
    exact .number hc (gives_readNumber_append hrest hr)

/-! ## Whole numbers -/

/-- A number that is not zero is written without a zero in front. -/
theorem head?_digitChars {n : Nat} (h : 0 < n) : (digitChars n).head? ≠ some '0' := by
  induction n using Nat.strongRecOn with
  | ind n ih =>
    unfold digitChars at ih ⊢
    by_cases hn : n < 10
    · have hdigit : ∀ n < 10, 0 < n → n.digitChar ≠ '0' := by decide
      rw [Nat.toDigits_of_lt_base hn]
      simpa using hdigit n hn h
    · obtain ⟨c, r, hcons⟩ := List.exists_cons_of_ne_nil (digitChars_ne_nil (n / 10))
      have hhead := ih (n / 10) (by omega) (by omega)
      rw [Nat.toDigits_of_base_le (by decide) (by omega)]
      unfold digitChars at hcons
      rw [hcons] at hhead ⊢
      exact hhead

theorem takeNumeral_digitChars (hrest : Stops continuesNumber rest) (n : Nat) :
    takeNumeral (digitChars n ++ rest) = .ok (⟨digitChars n, none, none⟩, rest) := by
  have hdigits : takeDigits (digitChars n ++ rest) = .ok (digitChars n, rest) := by
    have hall : ∀ c ∈ digitChars n, c.isDigit = true := fun c => isDigit_of_mem_digitChars
    unfold takeDigits
    rw [takeWhile_append_of_stops hall (stops_isDigit hrest),
      dropWhile_append_of_stops hall (stops_isDigit hrest)]
    split
    · next hnil => exact absurd hnil (digitChars_ne_nil n)
    · rfl
  have hwhole : takeWhole (digitChars n ++ rest) = .ok (digitChars n, rest) := by
    refine Except.bind_eq_ok.2 ⟨_, hdigits, if_neg fun hzero => ?_⟩
    simp only [Bool.and_eq_true, decide_eq_true_eq, beq_iff_eq] at hzero
    rcases Nat.eq_zero_or_pos n with rfl | hpos
    · exact absurd hzero.1 (by decide)
    · exact head?_digitChars hpos hzero.2
  refine Except.bind_eq_ok.2 ⟨_, hwhole, ?_⟩
  refine Except.bind_eq_ok.2 ⟨_, takeFraction_of_stops hrest, ?_⟩
  exact Except.bind_eq_ok.2 ⟨_, takeExponent_of_stops hrest, rfl⟩

theorem value_digitChars_nonneg {n : Nat} (hn : n < 0x10000000000000000) :
    Numeral.value false ⟨digitChars n, none, none⟩ = .ok (.int n) := by
  simp [Numeral.value, Numeral.isWhole, digitsValue_digitChars, hn]

theorem value_digitChars_neg {n : Nat} (hpos : 0 < n) (hn : n ≤ 0x8000000000000000) :
    Numeral.value true ⟨digitChars n, none, none⟩ = .ok (.int (-n)) := by
  simp [Numeral.value, Numeral.isWhole, digitsValue_digitChars, hpos, hn]

/-- A whole number that fits is read back. -/
theorem gives_readValue_int {i : Int} (hi : (Number.int i).IsNormal) (depth : Nat)
    (hrest : Stops continuesNumber rest) :
    Gives (readValue depth ((toString i).toList ++ rest)) (.number (.int i)) rest := by
  obtain ⟨hlow, hhigh⟩ := hi
  have hnumeral := takeNumeral_digitChars hrest i.natAbs
  refine gives_readValue_iff.2 ?_
  rw [toList_toString_int]
  by_cases hneg : i < 0
  · have hvalue := value_digitChars_neg (show 0 < i.natAbs by omega) (by omega)
    rw [Int.ofNat_natAbs_of_nonpos (by omega), Int.neg_neg] at hvalue
    rw [if_pos (decide_eq_true hneg), List.cons_append, skipBlanks_cons (by decide)]
    exact .negative (gives_readNumber_iff.2 ⟨_, hnumeral, hvalue⟩)
  · have hvalue := value_digitChars_nonneg (show i.natAbs < 0x10000000000000000 by omega)
    rw [Int.natAbs_of_nonneg (by omega)] at hvalue
    have hgives := gives_readNumber_iff.2 ⟨_, hnumeral, hvalue⟩
    rw [if_neg (by simpa using hneg)]
    obtain ⟨c, r, hcons⟩ := List.exists_cons_of_ne_nil (digitChars_ne_nil i.natAbs)
    have hc : c.isDigit = true := by
      refine isDigit_of_mem_digitChars (n := i.natAbs) ?_
      rw [hcons]
      exact List.mem_cons_self
    rw [hcons, List.cons_append] at hgives ⊢
    rw [skipBlanks_cons (not_isJsonBlank_of_isDigit hc)]
    exact .number hc hgives

/-! ## Doubles -/

/-- The text of a double is read as the double. -/
def ReadsBack (x : Float) : Prop := parse (Number.text (.double x)) = .ok (.number (.double x))

/-- A reading gives a value and leaves a rest, but for the blanks before it. -/
def Reads (reading : Reading α s) (value : α) (rest : List Char) : Prop :=
  ∃ mid, Gives reading value mid ∧ skipBlanks mid = skipBlanks rest

theorem Gives.reads {reading : Reading α s} {value : α} (h : Gives reading value rest) :
    Reads reading value rest := ⟨rest, h, rfl⟩

theorem reads_double {x : Float} (hx : ReadsBack x) (depth : Nat)
    (hrest : Stops continuesNumber rest) :
    Reads (readValue depth (Number.text (.double x) ++ rest)) (.number (.double x)) rest := by
  obtain ⟨mid, hread, hblank⟩ := parse_ok_iff.1 hx
  refine ⟨mid ++ rest, gives_readValue_append hrest hread, ?_⟩
  unfold skipBlanks at hblank ⊢
  rw [List.dropWhile_append, hblank, List.isEmpty_nil, if_pos rfl]

end

/-- A numeral with a point or an exponent stands for a double. -/
theorem Numeral.value_of_double {numeral : Numeral} {bits : Nat} (negative : Bool)
    (hpart : numeral.isWhole = false)
    (h : numeral.double.toOption.map magnitudeBits = some bits) :
    numeral.value negative = .ok (.double (ofBits negative bits)) := by
  obtain ⟨x, hx, rfl⟩ := Option.map_eq_some_iff.1 h
  cases hdouble : numeral.double with
  | error fault =>
    rw [hdouble] at hx
    cases hx
  | ok y =>
    rw [hdouble] at hx
    cases hx
    simp [Numeral.value, hpart, hdouble, Except.map]

/-- One half. -/
def half : Float := ofBits false 0x3FE0000000000000

theorem readsBack_half : ReadsBack half := by
  have htext : Number.text (.double half) = ['0', '.', '5'] := by decide +kernel
  have hnumeral : takeNumeral ['0', '.', '5'] = .ok (⟨['0'], some ['5'], none⟩, []) := rfl
  have hvalue : Numeral.value false ⟨['0'], some ['5'], none⟩ = .ok (.double half) :=
    Numeral.value_of_double false rfl (by decide +kernel)
  have hread : Gives (readValue depthLimit ['0', '.', '5']) (.number (.double half)) [] :=
    gives_readValue_iff.2 (.number rfl (gives_readNumber_iff.2 ⟨_, hnumeral, hvalue⟩))
  rw [ReadsBack, htext]
  exact parse_ok_iff.2 ⟨[], hread, rfl⟩

/-! ## Arrays and objects -/

mutual

/-- The doubles in a value. -/
def doubles : Json → List Float
  | .null => []
  | .bool _ => []
  | .number (.int _) => []
  | .number (.double x) => [x]
  | .string _ => []
  | .array items => itemsDoubles items
  | .object fields => fieldsDoubles fields

/-- The doubles in values. -/
def itemsDoubles : List Json → List Float
  | [] => []
  | item :: rest => doubles item ++ itemsDoubles rest

/-- The doubles in the values of fields. -/
def fieldsDoubles : List (String × Json) → List Float
  | [] => []
  | (_, value) :: rest => doubles value ++ fieldsDoubles rest

end

theorem mem_itemsDoubles {items : List Json} {item : Json} (h : item ∈ items) {x : Float}
    (hx : x ∈ item.doubles) : x ∈ itemsDoubles items := by
  induction items with
  | nil => cases h
  | cons first more ih =>
    rw [itemsDoubles, List.mem_append]
    rcases List.mem_cons.1 h with rfl | h
    · exact .inl hx
    · exact .inr (ih h)

theorem mem_fieldsDoubles {fields : Fields} {field : String × Json} (h : field ∈ fields) {x : Float}
    (hx : x ∈ field.2.doubles) : x ∈ fieldsDoubles fields := by
  induction fields with
  | nil => cases h
  | cons first more ih =>
    rw [fieldsDoubles, List.mem_append]
    rcases List.mem_cons.1 h with rfl | h
    · exact .inl hx
    · exact .inr (ih h)

/-- A value is read from its text, whatever it is followed by that does not go on with a number. -/
def IsReadBack (depth : Nat) (value : Json) : Prop :=
  ∀ rest, Stops continuesNumber rest → Reads (readValue depth (value.text ++ rest)) value rest

/-- No value begins with the end of an array or an object. -/
theorem head?_of_gives_readValue {depth : Nat} {s rest : List Char} {value : Json}
    (h : Gives (readValue depth s) value rest) :
    (skipBlanks s).head? ≠ some ']' ∧ (skipBlanks s).head? ≠ some '\x7d' := by
  have htakes := gives_readValue_iff.1 h
  generalize skipBlanks s = t at htakes
  cases htakes with
  | word hc _ =>
    constructor
    · rintro ⟨⟩
      cases hc
    · rintro ⟨⟩
      cases hc
  | number hc _ =>
    constructor
    · rintro ⟨⟩
      cases hc
    · rintro ⟨⟩
      cases hc
  | string _ => exact ⟨by simp, by simp⟩
  | negative _ => exact ⟨by simp, by simp⟩
  | array _ _ => exact ⟨by simp, by simp⟩
  | object _ _ => exact ⟨by simp, by simp⟩

theorem gives_readItemsFrom_text {depth : Nat} {items : List Json} (hne : items ≠ [])
    (h : ∀ item ∈ items, IsReadBack depth item) (rest : List Char) :
    Gives (readItemsFrom depth (itemsText items ++ ']' :: rest)) items rest := by
  induction items with
  | nil => exact absurd rfl hne
  | cons item more ih =>
    obtain ⟨hitem, hmore⟩ := List.forall_mem_cons.1 h
    cases more with
    | nil =>
      obtain ⟨mid, hread, hmid⟩ := hitem (']' :: rest) (stops_cons (by decide) rest)
      refine gives_readItemsFrom_iff.2 ⟨item, mid, hread, .inr ⟨?_, rfl⟩⟩
      rw [hmid, skipBlanks_cons (by decide)]
    | cons next others =>
      have htext : itemsText (item :: next :: others) ++ ']' :: rest =
          item.text ++ ',' :: (itemsText (next :: others) ++ ']' :: rest) := by
        simp [itemsText]
      obtain ⟨mid, hread, hmid⟩ := hitem _ (stops_cons (show continuesNumber ',' = false by decide)
        (itemsText (next :: others) ++ ']' :: rest))
      rw [htext]
      refine gives_readItemsFrom_iff.2 ⟨item, mid, hread,
        .inl ⟨_, next :: others, ?_, ih (List.cons_ne_nil next others) hmore, rfl⟩⟩
      rw [hmid, skipBlanks_cons (by decide)]

theorem gives_readKey_quoted (name : String) (rest : List Char) :
    Gives (readKey (quoted name ++ rest)) name rest := by
  refine gives_readKey_iff.2 ⟨_, ?_, gives_readString_quoted name rest⟩
  rw [quoted_append, skipBlanks_cons (by decide)]

theorem gives_readName_quoted (name : String) (rest : List Char) :
    Gives (readName (quoted name ++ ':' :: rest)) name rest :=
  gives_readName_iff.2 ⟨_, gives_readKey_quoted name _, skipBlanks_cons (by decide) rest⟩

/-- In increasing order of their names, fields are put one behind the other. -/
theorem gives_readFieldsFrom_text {depth : Nat} {before fields : Fields} (hne : fields ≠ [])
    (hsorted : Fields.IsSorted (before ++ fields))
    (h : ∀ field ∈ fields, IsReadBack depth field.2) (rest : List Char) :
    Gives (readFieldsFrom depth before (fieldsText fields ++ '\x7d' :: rest)) (before ++ fields)
      rest := by
  induction fields generalizing before with
  | nil => exact absurd rfl hne
  | cons field more ih =>
    obtain ⟨name, value⟩ := field
    obtain ⟨hvalue, hmore⟩ := List.forall_mem_cons.1 h
    have hlast : ∀ n ∈ before.map Prod.fst, n < name := by
      unfold Fields.IsSorted at hsorted
      rw [List.map_append, List.pairwise_append] at hsorted
      exact fun n hn => hsorted.2.2 n hn name List.mem_cons_self
    have hinsert : before.insert name value = before ++ [(name, value)] :=
      Fields.insert_of_lt hlast
    cases more with
    | nil =>
      have htext : fieldsText [(name, value)] ++ '\x7d' :: rest =
          quoted name ++ ':' :: (value.text ++ '\x7d' :: rest) := by
        simp [fieldsText]
      obtain ⟨mid, hread, hmid⟩ :=
        hvalue ('\x7d' :: rest) (stops_cons (by decide) rest)
      rw [htext]
      refine gives_readFieldsFrom_iff.2 ⟨name, _, value, mid, gives_readName_quoted name _, hread,
        .inr ⟨?_, hinsert.symm⟩⟩
      rw [hmid, skipBlanks_cons (by decide)]
    | cons next others =>
      have htext : fieldsText ((name, value) :: next :: others) ++ '\x7d' :: rest =
          quoted name ++ ':' :: (value.text ++
            ',' :: (fieldsText (next :: others) ++ '\x7d' :: rest)) := by
        simp [fieldsText]
      obtain ⟨mid, hread, hmid⟩ := hvalue _ (stops_cons (show continuesNumber ',' = false by decide)
        (fieldsText (next :: others) ++ '\x7d' :: rest))
      have happend : before ++ (name, value) :: next :: others =
          before ++ [(name, value)] ++ next :: others := by simp
      rw [htext, happend]
      refine gives_readFieldsFrom_iff.2 ⟨name, _, value, mid, gives_readName_quoted name _, hread,
        .inl ⟨fieldsText (next :: others) ++ '\x7d' :: rest, ?_, ?_⟩⟩
      · rw [hmid, skipBlanks_cons (by decide)]
      · rw [hinsert]
        exact ih (List.cons_ne_nil next others) (happend ▸ hsorted) hmore

theorem gives_readItems_text {depth : Nat} {items : List Json}
    (h : ∀ item ∈ items, IsReadBack depth item) (rest : List Char) :
    Gives (readItems depth (itemsText items ++ ']' :: rest)) items rest := by
  refine gives_readItems_iff.2 ?_
  cases items with
  | nil => exact .inl ⟨skipBlanks_cons (by decide) rest, rfl⟩
  | cons item more =>
    have hgives := gives_readItemsFrom_text (List.cons_ne_nil item more) h rest
    obtain ⟨first, mid, hread, -⟩ := gives_readItemsFrom_iff.1 hgives
    exact .inr ⟨(head?_of_gives_readValue hread).1, hgives⟩

theorem gives_readFields_text {depth : Nat} {fields : Fields} (hsorted : fields.IsSorted)
    (h : ∀ field ∈ fields, IsReadBack depth field.2) (rest : List Char) :
    Gives (readFields depth (fieldsText fields ++ '\x7d' :: rest)) fields rest := by
  refine gives_readFields_iff.2 ?_
  cases fields with
  | nil => exact .inl ⟨skipBlanks_cons (by decide) rest, rfl⟩
  | cons field more =>
    have hgives : Gives (readFieldsFrom depth [] _) ([] ++ field :: more) rest :=
      gives_readFieldsFrom_text (List.cons_ne_nil field more) hsorted h rest
    obtain ⟨_, _, _, _, hname, -⟩ := gives_readFieldsFrom_iff.1 hgives
    obtain ⟨_, hkey, -⟩ := gives_readName_iff.1 hname
    obtain ⟨_, hquote, -⟩ := gives_readKey_iff.1 hkey
    refine .inr ⟨?_, hgives⟩
    rw [hquote]
    simp

/-! ## All values -/

/-- The words `null`, `true` and `false`. -/
theorem gives_readValue_word {c : Char} {word : List Char} {value : Json} {depth : Nat}
    (hc : word? c = some (word, value)) (rest : List Char) :
    Gives (readValue depth (c :: word ++ rest)) value rest := by
  have hblank : isJsonBlank c = false := by
    unfold word? at hc
    split at hc
    · decide
    · decide
    · decide
    · cases hc
  refine gives_readValue_iff.2 ?_
  rw [List.cons_append, skipBlanks_cons hblank]
  exact .word hc rfl

/-- **A normal value is read back** where all its doubles are. -/
theorem isReadBack_of_isNormal {depth : Nat} {value : Json} (h : IsNormal depth value)
    (hdoubles : ∀ x ∈ value.doubles, ReadsBack x) : IsReadBack depth value := by
  induction h with
  | null => exact fun rest _ => (gives_readValue_word rfl rest).reads
  | @bool depth b =>
    intro rest _
    cases b with
    | false => exact (gives_readValue_word rfl rest).reads
    | true => exact (gives_readValue_word rfl rest).reads
  | @number depth n hn =>
    -- only here it matters what follows: all other values end by themselves
    intro rest hrest
    cases n with
    | int i => exact (gives_readValue_int hn depth hrest).reads
    | double x => exact reads_double (hdoubles x List.mem_cons_self) depth hrest
  | @string depth s =>
    intro rest _
    refine (gives_readValue_iff.2 ?_).reads
    rw [text, quoted_append, skipBlanks_cons (by decide)]
    exact .string (gives_readString_quoted s rest)
  | @array depth items hdepth _ ih =>
    intro rest _
    have hitems := gives_readItems_text (fun item hitem =>
      ih item hitem fun x hx => hdoubles x (mem_itemsDoubles hitem hx)) rest
    have htext : (Json.array items).text ++ rest = '[' :: (itemsText items ++ ']' :: rest) := by
      simp [text]
    refine (gives_readValue_iff.2 ?_).reads
    rw [htext, skipBlanks_cons (by decide)]
    exact .array hdepth hitems
  | @object depth fields hdepth hsorted _ ih =>
    intro rest _
    have hfields := gives_readFields_text hsorted (fun field hfield =>
      ih field hfield fun x hx => hdoubles x (mem_fieldsDoubles hfield hx)) rest
    have htext : (Json.object fields).text ++ rest =
        '\x7b' :: (fieldsText fields ++ '\x7d' :: rest) := by
      simp [text]
    refine (gives_readValue_iff.2 ?_).reads
    rw [htext, skipBlanks_cons (by decide)]
    exact .object hdepth hfields

/-- What is read from a text is read again from its compact text. -/
theorem parse_compactText {s : List Char} {value : Json} (h : parse s = .ok value)
    (hdoubles : ∀ x ∈ value.doubles, ReadsBack x) : parse value.text = .ok value := by
  obtain ⟨rest, hread, -⟩ := parse_ok_iff.1 h
  have hnormal := isNormal_of_readValue hread
  obtain ⟨mid, hgives, hmid⟩ := isReadBack_of_isNormal hnormal hdoubles [] (by simp [Stops])
  rw [List.append_nil] at hgives
  exact parse_ok_iff.2 ⟨mid, hgives, hmid⟩

end LogFilter.Json
