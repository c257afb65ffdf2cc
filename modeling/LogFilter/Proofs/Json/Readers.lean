import LogFilter.Json.Reader

/-!
# What the readers of JSON take

For each reader the texts from which it takes a value and the rest that it leaves. A reader is
described by those that it calls, so what holds of all values that are read follows by an induction
on the length of the text.
-/

namespace LogFilter.Json

open Text

variable {α β : Type} {s r rest : List Char}

/-- A reading that ends well, with a value and a rest. -/
def Gives (reading : Reading α s) (value : α) (rest : List Char) : Prop :=
  ∃ h, reading = .ok ⟨value, rest, h⟩

theorem Gives.length_lt {reading : Reading α s} {value : α} (h : Gives reading value rest) :
    rest.length < s.length := h.1

theorem gives_ok_iff {taken : Taken α s} {value : α} :
    Gives (.ok taken) value rest ↔ taken.value = value ∧ taken.rest = rest := by
  obtain ⟨v, r, h⟩ := taken
  constructor
  · rintro ⟨h', heq⟩
    cases heq
    exact ⟨rfl, rfl⟩
  · rintro ⟨rfl, rfl⟩
    exact ⟨h, rfl⟩

theorem not_gives_error {fault : Fault} {value : α} :
    ¬Gives (.error fault : Reading α s) value rest := by
  rintro ⟨h, heq⟩
  cases heq

theorem gives_bind_iff {reading : Reading β r} {f : Taken β r → Reading α s} {value : α} :
    Gives (reading >>= f) value rest ↔
      ∃ v mid h, reading = .ok ⟨v, mid, h⟩ ∧ Gives (f ⟨v, mid, h⟩) value rest := by
  constructor
  · rintro ⟨h, heq⟩
    obtain ⟨⟨v, mid, hmid⟩, hreading, hf⟩ := Except.bind_eq_ok.1 heq
    exact ⟨v, mid, hmid, hreading, h, hf⟩
  · rintro ⟨v, mid, hmid, hreading, h, hf⟩
    exact ⟨h, Except.bind_eq_ok.2 ⟨_, hreading, hf⟩⟩

theorem gives_map_iff {reading : Reading β s} {f : β → α} {value : α} :
    Gives (reading.map (Taken.map f)) value rest ↔ ∃ v, Gives reading v rest ∧ f v = value := by
  constructor
  · rintro ⟨h, heq⟩
    obtain ⟨⟨v, mid, hmid⟩, hreading, hf⟩ := Except.map_eq_ok.1 heq
    cases hf
    exact ⟨v, ⟨hmid, hreading⟩, rfl⟩
  · rintro ⟨v, ⟨h, hreading⟩, rfl⟩
    exact ⟨h, Except.map_eq_ok.2 ⟨_, hreading, rfl⟩⟩

/-- A reading of a later part of a text, as a reading of the text. -/
theorem gives_later_iff {reading : Reading β r} (f : Taken β r → Taken α s) (g : β → α)
    (hf : ∀ t, (f t).value = g t.value ∧ (f t).rest = t.rest) {value : α} :
    Gives (reading >>= fun t => .ok (f t)) value rest ↔
      ∃ v, Gives reading v rest ∧ g v = value := by
  rw [gives_bind_iff]
  constructor
  · rintro ⟨v, mid, h, hreading, hok⟩
    obtain ⟨hvalue, hrest⟩ := gives_ok_iff.1 hok
    rw [(hf _).1] at hvalue
    rw [(hf _).2] at hrest
    cases hrest
    exact ⟨v, ⟨h, hreading⟩, hvalue⟩
  · rintro ⟨v, ⟨h, hreading⟩, hvalue⟩
    exact ⟨v, rest, h, hreading, gives_ok_iff.2 ⟨(hf _).1.trans hvalue, (hf _).2⟩⟩

theorem gives_afterBlanks_iff {reading : Reading α r} {c : Char} (h : skipBlanks s = c :: r)
    {value : α} :
    Gives (reading >>= fun t => .ok (afterBlanks h t)) value rest ↔ Gives reading value rest := by
  rw [gives_later_iff (afterBlanks h) id fun t => ⟨rfl, rfl⟩]
  simp

/-! ## Characters, words, numbers and strings -/

theorem expectWord_cons_cons (w c : Char) (word t : List Char) :
    expectWord (w :: word) (c :: t) =
      if w = c then
        (expectWord word t).map fun after => ⟨after.1, Nat.le_succ_of_le after.2⟩
      else .error .malformed := by
  refine ite_congr rfl (fun _ => ?_) fun _ => rfl
  cases expectWord word t with
  | error fault => rfl
  | ok after => rfl

theorem expectWord_eq_ok_iff {word : List Char} :
    (∃ h, expectWord word s = .ok ⟨rest, h⟩) ↔ s = word ++ rest := by
  induction word generalizing s with
  | nil =>
    constructor
    · rintro ⟨h, heq⟩
      exact congrArg Subtype.val (Except.ok.inj heq)
    · rintro rfl
      exact ⟨Nat.le_refl _, rfl⟩
  | cons w word ih =>
    cases s with
    | nil =>
      constructor
      · rintro ⟨h, heq⟩
        cases heq
      · intro h
        cases h
    | cons c t =>
      rw [expectWord_cons_cons]
      by_cases hc : w = c
      · subst hc
        rw [if_pos rfl, List.cons_append, List.cons.injEq, ← ih]
        constructor
        · rintro ⟨h, heq⟩
          obtain ⟨⟨mid, hmid⟩, hword, hrest⟩ := Except.map_eq_ok.1 heq
          obtain rfl : mid = rest := congrArg Subtype.val hrest
          exact ⟨rfl, hmid, hword⟩
        · rintro ⟨-, h, hword⟩
          exact ⟨Nat.le_succ_of_le h, Except.map_eq_ok.2 ⟨_, hword, rfl⟩⟩
      · rw [if_neg hc]
        simp [Ne.symm hc]

theorem expectChar_eq_ok_iff {c : Char} :
    (∃ h, expectChar c s = .ok ⟨rest, h⟩) ↔ skipBlanks s = c :: rest := by
  unfold expectChar
  split
  · next hs => simp [hs]
  · next d t hs =>
    split
    · next hd =>
      have hlt : t.length < s.length := length_of_skipBlanks hs
      simpa [hs, hd] using fun h : t = rest => h ▸ hlt
    · next hd => simp [hs, hd]

theorem gives_readString_iff {text : String} :
    Gives (readString s) text rest ↔ stringBody s = .ok (text.toList, rest) := by
  unfold readString
  split
  · next hs => simp [not_gives_error, hs]
  · next cs t hs =>
    simp only [gives_ok_iff, hs, Except.ok.injEq, Prod.mk.injEq]
    rw [← String.toList_inj, String.toList_ofList]

theorem gives_readNumber_iff {negative : Bool} {n : Number} :
    Gives (readNumber negative s) n rest ↔
      ∃ numeral, takeNumeral s = .ok (numeral, rest) ∧ numeral.value negative = .ok n := by
  unfold readNumber
  split
  · next hs => simp [not_gives_error, hs]
  · next numeral t hs =>
    simp only [Gives, Except.map_eq_ok, hs, Except.ok.injEq, Prod.mk.injEq]
    constructor
    · rintro ⟨h, n', hn, heq⟩
      cases heq
      exact ⟨numeral, ⟨rfl, rfl⟩, hn⟩
    · rintro ⟨numeral', ⟨rfl, rfl⟩, hn⟩
      exact ⟨takeNumeral_shorter hs, n, hn, rfl⟩

theorem gives_readKey_iff {name : String} :
    Gives (readKey s) name rest ↔
      ∃ r, skipBlanks s = '"' :: r ∧ Gives (readString r) name rest := by
  unfold readKey
  split
  · next r hs =>
    rw [gives_afterBlanks_iff hs, hs]
    simp
  · next hne =>
    refine ⟨fun h => absurd h not_gives_error, ?_⟩
    rintro ⟨r, hs, -⟩
    exact absurd hs (hne r)

theorem gives_readName_iff {name : String} :
    Gives (readName s) name rest ↔
      ∃ mid, Gives (readKey s) name mid ∧ skipBlanks mid = ':' :: rest := by
  unfold readName
  rw [gives_bind_iff]
  constructor
  · rintro ⟨v, mid, hmid, hkey, h, heq⟩
    obtain ⟨⟨r, hr⟩, hcolon, hok⟩ := Except.bind_eq_ok.1 heq
    cases hok
    exact ⟨mid, ⟨hmid, hkey⟩, expectChar_eq_ok_iff.1 ⟨hr, hcolon⟩⟩
  · rintro ⟨mid, ⟨hmid, hkey⟩, hcolon⟩
    obtain ⟨hr, hcolon⟩ := expectChar_eq_ok_iff.2 hcolon
    exact ⟨name, mid, hmid, hkey, Nat.lt_trans hr hmid,
      Except.bind_eq_ok.2 ⟨_, hcolon, rfl⟩⟩

/-! ## Values -/

/-- What the reader of values takes from a text that starts with no blank, by its first
character. -/
inductive TakesValue (depth : Nat) : List Char → Json → List Char → Prop
  | word {c : Char} {word r rest : List Char} {value : Json} (hc : word? c = some (word, value))
      (hr : r = word ++ rest) : TakesValue depth (c :: r) value rest
  | string {r rest : List Char} {text : String} (hr : Gives (readString r) text rest) :
      TakesValue depth ('"' :: r) (.string text) rest
  | negative {r rest : List Char} {n : Number} (hr : Gives (readNumber true r) n rest) :
      TakesValue depth ('-' :: r) (.number n) rest
  | number {c : Char} {r rest : List Char} {n : Number} (hc : c.isDigit = true)
      (hr : Gives (readNumber false (c :: r)) n rest) : TakesValue depth (c :: r) (.number n) rest
  | array {r rest : List Char} {items : List Json} (hdepth : 1 < depth)
      (hr : Gives (readItems (depth - 1) r) items rest) :
      TakesValue depth ('[' :: r) (.array items) rest
  | object {r rest : List Char} {fields : Fields} (hdepth : 1 < depth)
      (hr : Gives (readFields (depth - 1) r) fields rest) :
      TakesValue depth ('\x7b' :: r) (.object fields) rest

variable {depth : Nat}

theorem word?_of_isDigit {c : Char} (h : c.isDigit = true) : word? c = none := by
  unfold word?
  split
  all_goals simp_all

theorem takesValue_of_gives {value : Json} (h : Gives (readValue depth s) value rest) :
    TakesValue depth (skipBlanks s) value rest := by
  rw [readValue] at h
  split at h
  · exact absurd h not_gives_error
  next c r hs =>
  have hto := congrArg (TakesValue depth · value rest) hs
  refine hto.mpr ?_
  clear hto
  dsimp only at h
  split at h
  · next word value' hc =>
    obtain ⟨hlt, heq⟩ := h
    obtain ⟨⟨mid, hmid⟩, hword, hok⟩ := Except.bind_eq_ok.1 heq
    cases hok
    exact .word hc (expectWord_eq_ok_iff.1 ⟨hmid, hword⟩)
  · split at h
    · next hc =>
      obtain ⟨text, hr, rfl⟩ := (gives_later_iff _ Json.string fun t => ⟨rfl, rfl⟩).1 h
      exact hc ▸ .string hr
    split at h
    · next hc =>
      obtain ⟨n, hr, rfl⟩ := (gives_later_iff _ Json.number fun t => ⟨rfl, rfl⟩).1 h
      exact hc ▸ .negative hr
    split at h
    · next hc =>
      obtain ⟨n, hr, rfl⟩ := (gives_later_iff _ Json.number fun t => ⟨rfl, rfl⟩).1 h
      exact .number hc hr
    split at h
    · next hc =>
      split at h
      · exact absurd h not_gives_error
      · next hdepth =>
        obtain ⟨items, hr, rfl⟩ := (gives_later_iff _ Json.array fun t => ⟨rfl, rfl⟩).1 h
        exact hc ▸ .array (Nat.lt_of_not_le hdepth) hr
    split at h
    · next hc =>
      split at h
      · exact absurd h not_gives_error
      · next hdepth =>
        obtain ⟨fields, hr, rfl⟩ := (gives_later_iff _ Json.object fun t => ⟨rfl, rfl⟩).1 h
        exact hc ▸ .object (Nat.lt_of_not_le hdepth) hr
    · exact absurd h not_gives_error

theorem gives_of_takesValue {value : Json} (h : TakesValue depth (skipBlanks s) value rest) :
    Gives (readValue depth s) value rest := by
  generalize hs : skipBlanks s = t at h
  rw [readValue]
  split
  · next hnil =>
    rw [hnil] at hs
    cases hs
    cases h
  next c r hcons =>
  obtain rfl : c :: r = t := hcons.symm.trans hs
  dsimp only
  cases h with
  | word hc hr =>
    obtain ⟨hle, hword⟩ := expectWord_eq_ok_iff.2 hr
    split
    · next word' value' hc' =>
      obtain ⟨rfl, rfl⟩ := Prod.mk.inj (Option.some.inj (hc.symm.trans hc'))
      exact ⟨Nat.lt_of_le_of_lt hle (length_of_skipBlanks hcons),
        Except.bind_eq_ok.2 ⟨_, hword, rfl⟩⟩
    · next hc' => exact absurd (hc.symm.trans hc') (by simp)
  | string hr => exact (gives_later_iff _ Json.string fun t => ⟨rfl, rfl⟩).2 ⟨_, hr, rfl⟩
  | negative hr => exact (gives_later_iff _ Json.number fun t => ⟨rfl, rfl⟩).2 ⟨_, hr, rfl⟩
  | number hc hr =>
    have hne (d : Char) (hd : d.isDigit = false) : c ≠ d := by
      rintro rfl
      exact absurd (hc.symm.trans hd) (by simp)
    split
    · next hc' => exact absurd ((word?_of_isDigit hc).symm.trans hc') (by simp)
    · rw [if_neg (hne '"' (by decide)), if_neg (hne '-' (by decide)), if_pos hc]
      exact (gives_later_iff _ Json.number fun t => ⟨rfl, rfl⟩).2 ⟨_, hr, rfl⟩
  | array hdepth hr =>
    show Gives (if depth ≤ 1 then .error .malformed else
      readItems (depth - 1) r >>= fun t => .ok ((t.map Json.array).later _)) _ _
    rw [if_neg (Nat.not_le_of_lt hdepth)]
    exact (gives_later_iff _ Json.array fun t => ⟨rfl, rfl⟩).2 ⟨_, hr, rfl⟩
  | object hdepth hr =>
    show Gives (if depth ≤ 1 then .error .malformed else
      readFields (depth - 1) r >>= fun t => .ok ((t.map Json.object).later _)) _ _
    rw [if_neg (Nat.not_le_of_lt hdepth)]
    exact (gives_later_iff _ Json.object fun t => ⟨rfl, rfl⟩).2 ⟨_, hr, rfl⟩

theorem gives_readValue_iff {value : Json} :
    Gives (readValue depth s) value rest ↔ TakesValue depth (skipBlanks s) value rest :=
  ⟨takesValue_of_gives, gives_of_takesValue⟩

/-! ## Arrays and objects -/

theorem head?_ne_some {t : List Char} {c : Char} (h : ∀ r, t = c :: r → False) :
    t.head? ≠ some c := by
  intro hhead
  obtain ⟨r, hr⟩ := List.head?_eq_some_iff.1 hhead
  exact h r hr

/-- After an element comes another one behind a comma, or the end. -/
theorem gives_afterItem_iff {t : List Char} {more : ∀ r, t = ',' :: r → Reading α s}
    {last : ∀ r, t = ']' :: r → Reading α s} {value : α} :
    Gives (match h : t with
      | ',' :: r => more r h
      | ']' :: r => last r h
      | _ => .error .malformed) value rest ↔
    (∃ r h, Gives (more r h) value rest) ∨ ∃ r h, Gives (last r h) value rest := by
  constructor
  · intro h
    split at h
    · next r => exact .inl ⟨r, rfl, h⟩
    · next r => exact .inr ⟨r, rfl, h⟩
    · exact absurd h not_gives_error
  · rintro (⟨r, rfl, h⟩ | ⟨r, rfl, h⟩)
    · exact h
    · exact h

theorem gives_readItems_iff {items : List Json} :
    Gives (readItems depth s) items rest ↔
      (skipBlanks s = ']' :: rest ∧ items = []) ∨
        (skipBlanks s).head? ≠ some ']' ∧ Gives (readItemsFrom depth s) items rest := by
  rw [readItems]
  split
  · next r hs => simp [gives_ok_iff, atBlanks, hs, and_comm, eq_comm]
  · next hne =>
    have hcons : ¬skipBlanks s = ']' :: rest := hne rest
    simp [hcons, head?_ne_some hne]

theorem gives_readItemsFrom_iff {items : List Json} :
    Gives (readItemsFrom depth s) items rest ↔
      ∃ item mid, Gives (readValue depth s) item mid ∧
        ((∃ r more, skipBlanks mid = ',' :: r ∧ Gives (readItemsFrom depth r) more rest ∧
            items = item :: more) ∨
          skipBlanks mid = ']' :: rest ∧ items = [item]) := by
  rw [readItemsFrom, gives_bind_iff]
  constructor
  · rintro ⟨item, mid, hmid, hvalue, h⟩
    refine ⟨item, mid, ⟨hmid, hvalue⟩, ?_⟩
    rcases gives_afterItem_iff.1 h with ⟨r, hs, h⟩ | ⟨r, hs, h⟩
    · obtain ⟨more, _, hlt, hmore, hok⟩ := gives_bind_iff.1 h
      obtain ⟨rfl, rfl⟩ := gives_ok_iff.1 hok
      exact .inl ⟨r, more, hs, ⟨hlt, hmore⟩, rfl⟩
    · obtain ⟨rfl, rfl⟩ := gives_ok_iff.1 h
      exact .inr ⟨hs, rfl⟩
  · rintro ⟨item, mid, ⟨hmid, hvalue⟩, h⟩
    refine ⟨item, mid, hmid, hvalue, gives_afterItem_iff.2 ?_⟩
    rcases h with ⟨r, more, hs, ⟨hlt, hmore⟩, rfl⟩ | ⟨hs, rfl⟩
    · exact .inl ⟨r, hs, gives_bind_iff.2 ⟨more, rest, hlt, hmore, gives_ok_iff.2 ⟨rfl, rfl⟩⟩⟩
    · exact .inr ⟨rest, hs, gives_ok_iff.2 ⟨rfl, rfl⟩⟩

/-- The same for the fields of an object. -/
theorem gives_afterField_iff {t : List Char} {more : ∀ r, t = ',' :: r → Reading α s}
    {last : ∀ r, t = '\x7d' :: r → Reading α s} {value : α} :
    Gives (match h : t with
      | ',' :: r => more r h
      | '\x7d' :: r => last r h
      | _ => .error .malformed) value rest ↔
    (∃ r h, Gives (more r h) value rest) ∨ ∃ r h, Gives (last r h) value rest := by
  constructor
  · intro h
    split at h
    · next r => exact .inl ⟨r, rfl, h⟩
    · next r => exact .inr ⟨r, rfl, h⟩
    · exact absurd h not_gives_error
  · rintro (⟨r, rfl, h⟩ | ⟨r, rfl, h⟩)
    · exact h
    · exact h

theorem gives_readFields_iff {fields : Fields} :
    Gives (readFields depth s) fields rest ↔
      (skipBlanks s = '\x7d' :: rest ∧ fields = []) ∨
        (skipBlanks s).head? ≠ some '\x7d' ∧ Gives (readFieldsFrom depth [] s) fields rest := by
  rw [readFields]
  split
  · next r hs => simp [gives_ok_iff, atBlanks, hs, and_comm, eq_comm]
  · next hne =>
    have hcons : ¬skipBlanks s = '\x7d' :: rest := hne rest
    simp [hcons, head?_ne_some hne]

theorem gives_readFieldsFrom_iff {before fields : Fields} :
    Gives (readFieldsFrom depth before s) fields rest ↔
      ∃ name afterName value mid, Gives (readName s) name afterName ∧
        Gives (readValue depth afterName) value mid ∧
        ((∃ r, skipBlanks mid = ',' :: r ∧
            Gives (readFieldsFrom depth (before.insert name value) r) fields rest) ∨
          skipBlanks mid = '\x7d' :: rest ∧ fields = before.insert name value) := by
  rw [readFieldsFrom, gives_bind_iff]
  constructor
  · rintro ⟨name, afterName, hlt, hname, h⟩
    obtain ⟨value, mid, hlt', hvalue, h⟩ := gives_bind_iff.1 h
    refine ⟨name, afterName, value, mid, ⟨hlt, hname⟩, ⟨hlt', hvalue⟩, ?_⟩
    rcases gives_afterField_iff.1 h with ⟨r, hs, h⟩ | ⟨r, hs, h⟩
    · obtain ⟨more, _, hlt, hmore, hok⟩ := gives_bind_iff.1 h
      obtain ⟨rfl, rfl⟩ := gives_ok_iff.1 hok
      exact .inl ⟨r, hs, ⟨hlt, hmore⟩⟩
    · obtain ⟨rfl, rfl⟩ := gives_ok_iff.1 h
      exact .inr ⟨hs, rfl⟩
  · rintro ⟨name, afterName, value, mid, ⟨hlt, hname⟩, ⟨hlt', hvalue⟩, h⟩
    refine ⟨name, afterName, hlt, hname, gives_bind_iff.2 ⟨value, mid, hlt', hvalue, ?_⟩⟩
    refine gives_afterField_iff.2 ?_
    rcases h with ⟨r, hs, ⟨hlt, hmore⟩⟩ | ⟨hs, rfl⟩
    · exact .inl ⟨r, hs, gives_bind_iff.2 ⟨fields, rest, hlt, hmore, gives_ok_iff.2 ⟨rfl, rfl⟩⟩⟩
    · exact .inr ⟨rest, hs, gives_ok_iff.2 ⟨rfl, rfl⟩⟩

/-! ## Whole texts -/

theorem parse_ok_iff {value : Json} :
    parse s = .ok value ↔
      ∃ rest, Gives (readValue depthLimit s) value rest ∧ skipBlanks rest = [] := by
  constructor
  · intro h
    obtain ⟨⟨v, rest, hlt⟩, hread, hend⟩ := Except.bind_eq_ok.1 h
    dsimp only at hend
    split at hend
    · next hblank =>
      cases hend
      exact ⟨rest, ⟨hlt, hread⟩, List.isEmpty_iff.1 hblank⟩
    · cases hend
  · rintro ⟨rest, ⟨hlt, hread⟩, hblank⟩
    exact Except.bind_eq_ok.2 ⟨_, hread, if_pos (List.isEmpty_iff.2 hblank)⟩

end LogFilter.Json
