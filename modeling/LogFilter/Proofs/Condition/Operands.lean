import LogFilter.Proofs.Condition.Grammar

/-!
# Words and single tokens in the parser

The smallest functions of the parser against the smallest parts of the grammar: which operator a
token is, which number a numeral denotes, what a string compiles to, and which word, level or method
a name means.
-/

namespace LogFilter

open Text

/-! ## Names -/

/-- A name in lower case is said by the words of which it is the lower case. -/
theorem Word.says_iff {w : Word} {name : String} (h : name.toList.map Char.toLower = name.toList) :
    w.Says name ↔ w.kind = .keyword ∧ String.ofList (w.text.map Char.toLower) = name := by
  refine and_congr_right fun _ => ?_
  rw [sameIgnoringAsciiCase, beq_iff_eq, h]
  constructor
  · intro hw
    rw [hw, String.ofList_toList]
  · intro hw
    rw [← hw, String.toList_ofList]

theorem reservedWords_lower {name : String} (h : name ∈ reservedWords) :
    name.toList.map Char.toLower = name.toList := by
  have hall : ∀ n ∈ reservedWords, n.toList.map Char.toLower = n.toList := by decide +kernel
  exact hall name h

theorem mem_reservedWords_of_mem_fixedWords {name : String} {e : Expr}
    (h : (name, e) ∈ fixedWords) : name ∈ reservedWords :=
  List.mem_cons_of_mem _ (List.mem_map_of_mem h)

/-- A word says one name at most. -/
theorem Word.Says.unique {w : Word} {a b : String} (ha : w.Says a) (hb : w.Says b)
    (hla : a.toList.map Char.toLower = a.toList) (hlb : b.toList.map Char.toLower = b.toList) :
    a = b :=
  ((says_iff hla).1 ha).2.symm.trans ((says_iff hlb).1 hb).2

theorem Parser.fixedWord?_eq_some {word : String} {e : Expr} :
    fixedWord? word = some e ↔ (word, e) ∈ fixedWords := by
  unfold fixedWord? fixedWords
  split <;> simp_all [eq_comm]

theorem Parser.fixedWord?_eq_none {word : String} :
    fixedWord? word = none ↔ word ∉ fixedWords.map Prod.fst := by
  unfold fixedWord? fixedWords
  split <;> simp_all

theorem Level.mem_all (level : Level) : level ∈ all := by
  cases level <;> decide

/-- No two levels have the same name in different cases. -/
theorem Level.name_unique {a b : Level}
    (h : sameIgnoringAsciiCase a.name.toList b.name.toList = true) : a = b := by
  have hall : ∀ a ∈ all, ∀ b ∈ all,
      sameIgnoringAsciiCase a.name.toList b.name.toList = true → a = b := by decide +kernel
  exact hall a a.mem_all b b.mem_all h

/-- The level of a name is the one whose name it is in some ASCII case. -/
theorem Level.ofName?_eq_some {name : String} {level : Level} :
    ofName? name = some level ↔
      sameIgnoringAsciiCase name.toList level.name.toList = true := by
  unfold ofName?
  constructor
  · intro h
    have hl := List.find?_some h
    rw [sameIgnoringAsciiCase, beq_iff_eq] at hl ⊢
    exact hl.symm
  · intro h
    rw [sameIgnoringAsciiCase, beq_iff_eq] at h
    cases hf : all.find? fun l => sameIgnoringAsciiCase l.name.toList name.toList with
    | none =>
      have hnot := List.find?_eq_none.1 hf level level.mem_all
      rw [sameIgnoringAsciiCase, beq_iff_eq] at hnot
      exact absurd h.symm hnot
    | some l =>
      have hl := List.find?_some hf
      rw [sameIgnoringAsciiCase, beq_iff_eq] at hl
      rw [name_unique (show sameIgnoringAsciiCase l.name.toList level.name.toList = true by
        rw [sameIgnoringAsciiCase, hl, h, beq_self_eq_true])]

/-! ## Operators -/

namespace Tokens

/-- The first token is a word with a property. -/
def StartsWith (p : Word → Prop) (ts : Tokens) : Prop := ∃ t r, ts = token t r ∧ p t.word

@[simp] theorem startsWith_token {p : Word → Prop} {t : Token} {r : Tokens} :
    (token t r).StartsWith p ↔ p t.word := by
  constructor
  · rintro ⟨_, _, ⟨⟩, h⟩
    exact h
  · intro h
    exact ⟨t, r, rfl, h⟩

@[simp] theorem not_startsWith_finish {p : Word → Prop} {position : Nat} :
    ¬(finish position).StartsWith p := by
  rintro ⟨_, _, h, _⟩
  exact absurd h (by simp)

theorem startsWith_iff {kind : TokenKind} {ts : Tokens} :
    ts.startsWith kind = true ↔ ts.StartsWith fun w => w.kind = kind := by
  cases ts with
  | token t r => simp [startsWith, Token.word]
  | finish => simp [startsWith]
  | failure => simp [startsWith, StartsWith]

/-- The parser knows an operator by its sign and by its name. -/
theorem startsWithOperator_iff {sign : TokenKind} {name : String} {ts : Tokens} :
    (ts.startsWithWord name || ts.startsWith sign) = true ↔
      ts.StartsWith (Word.IsOperator sign name) := by
  cases ts with
  | token t r => simp [startsWithWord, startsWith, Word.IsOperator, Word.Says, Token.word]
  | finish => simp [startsWithWord, startsWith]
  | failure => simp [startsWithWord, startsWith, StartsWith]

end Tokens

/-! ## Numbers -/

theorem not_mem_point_of_digits {digits : List Char} (h : ∀ c ∈ digits, c.isDigit = true) :
    digits.contains '.' = false := by
  rw [List.contains_eq_mem, decide_eq_false_iff_not]
  intro hmem
  exact absurd (h '.' hmem) (by decide)

theorem Decimal.readInt?_signed {digits : List Char} (hne : digits ≠ [])
    (hd : ∀ c ∈ digits, c.isDigit = true) (negative : Bool) :
    readInt? (if negative then '-' :: digits else digits) = some (signedValue negative digits) :=
  readInt?_of_digits hne hd negative

theorem Denotes.isNumeral {negative : Bool} {text : List Char} {v : Value}
    (h : Denotes negative text v) : IsNumeral text := by
  cases h with
  | whole hne hd _ _ => exact Or.inl ⟨hne, hd⟩
  | point h =>
    obtain ⟨whole, fraction, ht, hne, hw, hf, _⟩ := h
    exact Or.inr ⟨whole, fraction, ht, hne, hw, hf⟩

namespace Parser

theorem numberLiteral_whole {digits : List Char} {negative : Bool} (hne : digits ≠ [])
    (hd : ∀ c ∈ digits, c.isDigit = true) :
    numberLiteral negative (String.ofList digits) =
      if -(2 : Int) ^ 63 ≤ signedValue negative digits ∧ signedValue negative digits < 2 ^ 63 then
        .ok (.literal (.int (Int64.ofInt (signedValue negative digits))))
      else .error (.invalidNumber (String.ofList digits)) := by
  simp only [numberLiteral, String.toList_ofList, not_mem_point_of_digits hd, Bool.false_eq_true,
    if_false, Decimal.readInt64?, Decimal.readInt?_signed hne hd]
  by_cases h : -(2 : Int) ^ 63 ≤ signedValue negative digits ∧ signedValue negative digits < 2 ^ 63
  · rw [if_pos h, if_pos (by omega)]
  · rw [if_neg h, if_neg (by omega)]

theorem numberLiteral_point {text : List Char} {negative : Bool} {bits : Nat}
    (h : Decimal.IsPointNumeral text bits) :
    numberLiteral negative (String.ofList text) =
      .ok (.literal (.float (Decimal.ofBits negative bits))) := by
  have hcontains : text.contains '.' = true := by
    obtain ⟨whole, fraction, rfl, _⟩ := h
    simp
  simp only [numberLiteral, String.toList_ofList, hcontains, if_true, h.readMagnitude?]

/-- A number is parsed as what it denotes. -/
theorem numberLiteral_eq_ok {text : List Char} {negative : Bool} {e : Expr} (h : IsNumeral text) :
    numberLiteral negative (String.ofList text) = .ok e ↔
      ∃ v, e = .literal v ∧ Denotes negative text v := by
  constructor
  · intro hok
    rcases h with ⟨hne, hd⟩ | ⟨whole, fraction, rfl, hne, hw, hf⟩
    · rw [numberLiteral_whole hne hd] at hok
      split at hok
      · next hrange =>
        exact ⟨_, (Except.ok.inj hok).symm, .whole hne hd hrange.1 hrange.2⟩
      · exact absurd hok (by simp)
    · have hpoint : Decimal.IsPointNumeral (whole ++ '.' :: fraction) _ :=
        ⟨whole, fraction, rfl, hne, hw, hf, rfl⟩
      rw [numberLiteral_point hpoint] at hok
      exact ⟨_, (Except.ok.inj hok).symm, .point hpoint⟩
  · rintro ⟨v, rfl, hv⟩
    cases hv with
    | whole hne hd hlow hhigh => rw [numberLiteral_whole hne hd, if_pos ⟨hlow, hhigh⟩]
    | point hpoint => exact numberLiteral_point hpoint

/-! ## Strings and calls -/

theorem stringLiteral_eq_ok {compile : LayoutCompiler} {template : String} {e : Expr} :
    stringLiteral compile template = .ok e ↔ Compiles compile template e := by
  unfold stringLiteral
  cases hc : compile template with
  | error =>
    refine ⟨fun h => absurd h (by simp), fun h => ?_⟩
    cases h with
    | constant h | varying h => exact absurd (h.symm.trans hc) (by simp)
  | ok l =>
    simp only
    constructor
    · intro h
      cases hf : l.fixedText? with
      | none =>
        rw [hf] at h
        exact Except.ok.inj h ▸ .varying hc hf
      | some text =>
        rw [hf] at h
        exact Except.ok.inj h ▸ .constant hc hf
    · intro h
      cases h with
      | constant h hf | varying h hf =>
        obtain rfl := Except.ok.inj (h.symm.trans hc)
        rw [hf]

theorem bind_eq_ok {resolve : Resolver} {name : String} {arguments : List Expr} {e : Expr} :
    Parser.bind resolve name arguments = .ok e ↔
      ∃ method, resolve name arguments.length = .ok (some method) ∧
        e = .call name arguments method := by
  unfold Parser.bind
  cases resolve name arguments.length with
  | error => simp
  | ok m => cases m <;> simp [eq_comm]

end Parser

/-- A string in quotes stands for itself. -/
theorem Token.stringValue_of_quoted {t : Token} {s : String} (h : t.text.toList = quotedText s) :
    t.stringValue = s := by
  unfold stringValue
  rw [h, quotedText]
  simp only [List.getLast?_append, List.getLast?_singleton, Option.some_or, if_true,
    List.dropLast_concat, halveQuotes_doubleQuotes, String.ofList_toList]

end LogFilter
