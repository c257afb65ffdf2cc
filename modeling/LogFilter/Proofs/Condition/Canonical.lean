import LogFilter.Method.Standard
import LogFilter.Proofs.Condition.Completeness
import LogFilter.Proofs.Condition.Spelling
import LogFilter.Proofs.Layout.Template

/-!
# Reading canonical forms

The words of a canonical form derive from an operand, and the tree of the derivation is the
expression again but for two things: methods are looked up anew, and strings are compiled anew. So
the tree is the same exactly if every string compiles to itself (`exists_derives`).
-/

namespace LogFilter

variable {env : Surroundings}

/-- A denial and all that binds tighter is a whole expression. -/
theorem Derives.or_of_not {ws : List Word} {e : Expr} (h : Derives env .not ws e) :
    Derives env .or ws e := .orFirst (.andFirst h)

/-- An operand is a whole expression, if it does not start with a denial. -/
theorem Derives.or_of_operand {ws : List Word} {e : Expr} (h : Derives env .operand ws e)
    (hw : ∀ w ∈ ws.head?, ¬w.IsNot) : Derives env .or ws e :=
  (Derives.notNone (.relationOne h) hw).or_of_not

/-- A whole expression between two operands and a word is an operand in parentheses. -/
theorem Derives.parens_binary {l r : List Word} {w : Word} {e : Expr}
    (h : Derives env .or (l ++ w :: r) e) :
    Derives env .operand (.leftParen :: (l ++ w :: (r ++ [.rightParen]))) e := by
  have hparens : Derives env .operand (.leftParen :: ((l ++ w :: r) ++ [.rightParen])) e :=
    .parens rfl h rfl
  rwa [List.append_assoc, List.cons_append] at hparens

/-- What a template compiles to is determined. -/
theorem Compiles.unique {compile : LayoutCompiler} {template : String} {a b : Expr}
    (ha : Compiles compile template a) (hb : Compiles compile template b) : a = b := by
  have hok := (Parser.stringLiteral_eq_ok.2 ha).symm.trans (Parser.stringLiteral_eq_ok.2 hb)
  exact Except.ok.inj hok

/-! ## What a canonical form needs to be read -/

/-- A literal that can be read back: strings compile, and doubles are finite. -/
def Value.IsReadable (compile : LayoutCompiler) : Value → Prop
  | string s => ∃ e, Compiles compile s e
  | float x => Decimal.isFinite x = true
  | v => v.IsLiteral

/-- A name that a call with a number of arguments can have, wherever the call stands. -/
structure IsCallName (resolve : Resolver) (name : String) (count : Nat) : Prop where
  keyword : IsKeyword name.toList
  not_reserved : ∀ reserved ∈ reservedWords, ¬(Word.keyword name).Says reserved
  not_not : ¬(Word.keyword name).Says "not"
  resolves : ∃ method, resolve name count = .ok (some method)

namespace Expr

/-- A node of which the canonical form can be read back. -/
def IsReadable (env : Surroundings) : Expr → Prop
  | literal v => v.IsReadable env.compile
  | layout l => Compiles env.compile l.template (.layout l)
  | call name arguments _ => IsCallName env.resolve name arguments.length
  | _ => True

/-- A string that compiles to itself, or a node that is no string. -/
def IsStable (compile : LayoutCompiler) : Expr → Prop
  | literal (.string s) => Compiles compile s (.literal (.string s))
  | _ => True

theorem IsReadable.isSpelled {e : Expr} (h : e.IsReadable env) : e.IsSpelled := by
  cases e with
  | literal v => cases v <;> first | exact h | trivial
  | call name arguments method => exact h.keyword
  | _ => trivial

end Expr

/-! ## The first word -/

theorem Word.not_isNot_of_kind {w : Word} (hk : w.kind ≠ .keyword) (hn : w.kind ≠ .not) :
    ¬w.IsNot := by
  intro h
  rcases h.kind with h | h
  · exact hk h
  · exact hn h

theorem not_isNot_signedWords {negative : Bool} {text : List Char} :
    ∀ w ∈ (signedWords negative ⟨.number, text⟩).head?, ¬w.IsNot := by
  intro w hw
  cases negative with
  | true =>
    obtain rfl : Word.minus = w := by simpa [signedWords] using hw
    exact Word.not_isNot_of_kind (by decide) (by decide)
  | false =>
    obtain rfl : ⟨.number, text⟩ = w := by simpa [signedWords] using hw
    exact Word.not_isNot_of_kind (by simp) (by simp)

/-- The canonical form of a double that is finite. -/
theorem Value.words_float {x : Float} (h : Decimal.isFinite x = true) :
    (float x).words = signedWords (Decimal.isNegative x)
      ⟨.number, Decimal.magnitudeText Decimal.valueStyle (Decimal.magnitudeBits x)⟩ := by
  have hfin : Decimal.magnitudeBits x < Decimal.infinityBits := of_decide_eq_true h
  have hinf : Decimal.isInfinite x = false := by
    rw [Decimal.isInfinite, beq_eq_false_iff_ne]
    omega
  rw [words, Decimal.isNaN_of_isFinite h, hinf]
  rfl

theorem Value.not_isNot_words {v : Value} (h : v.IsReadable env.compile) :
    ∀ w ∈ v.words.head?, ¬w.IsNot := by
  cases v with
  | int i => exact not_isNot_signedWords
  | float x =>
    rw [words_float h]
    exact not_isNot_signedWords
  | bool b => cases b <;> · rintro w ⟨⟩; decide +kernel
  | null | level l => rintro w ⟨⟩; decide +kernel
  | string s =>
    rintro w ⟨⟩
    exact Word.not_isNot_of_kind (by simp) (by simp)
  | date d | exception e => exact absurd h (by simp [IsReadable, IsLiteral])

/-- A canonical form does not start with a denial. -/
theorem Expr.not_isNot_words {e : Expr} (h : e.IsReadable env) :
    ∀ w ∈ e.words.head?, ¬w.IsNot := by
  cases e with
  | literal v => exact Value.not_isNot_words h
  | call name arguments method =>
    rintro w ⟨⟩
    rintro (hs | hk)
    · exact h.not_not hs
    · exact absurd hk (by simp [Word.keyword])
  | level | logger | message | exception => rintro w ⟨⟩; decide +kernel
  | layout l =>
    rintro w ⟨⟩
    exact Word.not_isNot_of_kind (by simp) (by simp)
  | not | and | or | relation =>
    rintro w ⟨⟩
    exact Word.not_isNot_of_kind (by decide) (by decide)

/-! ## Literals -/

theorem derives_signed {negative : Bool} {text : List Char} {v : Value}
    (h : Denotes negative text v) :
    Derives env .operand (signedWords negative ⟨.number, text⟩) (.literal v) := by
  cases negative with
  | true => exact .negative rfl rfl h
  | false => exact .number rfl h

/-- The digits of a whole number of 64 bits denote it. -/
theorem denotes_digitChars (i : Int64) :
    Denotes (decide (i.toInt < 0)) (Decimal.digitChars i.toInt.natAbs) (.int i) := by
  have hvalue : signedValue (decide (i.toInt < 0)) (Decimal.digitChars i.toInt.natAbs) =
      i.toInt := by
    rw [signedValue, Decimal.digitsValue_digitChars]
    split
    · next h =>
      have := of_decide_eq_true h
      omega
    · next h =>
      have : ¬i.toInt < 0 := fun hi => h (decide_eq_true hi)
      omega
  have hdenotes : Denotes (decide (i.toInt < 0)) (Decimal.digitChars i.toInt.natAbs)
      (.int (Int64.ofInt (signedValue _ (Decimal.digitChars i.toInt.natAbs)))) :=
    .whole (Decimal.digitChars_ne_nil _) (fun _ => Decimal.isDigit_of_mem_digitChars)
      (by rw [hvalue]; exact i.le_toInt) (by rw [hvalue]; exact i.toInt_lt)
  rwa [hvalue, Int64.ofInt_toInt] at hdenotes

/-- The text of a finite double denotes it. -/
theorem denotes_magnitudeText {x : Float} (h : Decimal.isFinite x = true) :
    Denotes (Decimal.isNegative x)
      (Decimal.magnitudeText Decimal.valueStyle (Decimal.magnitudeBits x)) (.float x) := by
  have hfin : Decimal.magnitudeBits x < Decimal.infinityBits := of_decide_eq_true h
  have hdenotes : Denotes (Decimal.isNegative x) _
      (.float (Decimal.ofBits (Decimal.isNegative x) (Decimal.magnitudeBits x))) :=
    .point (Decimal.isPointNumeral_magnitudeText hfin)
  rwa [Decimal.ofBits_magnitudeBits] at hdenotes

/-- A literal that is no string is read back as itself. -/
theorem derives_literal {v : Value} (h : v.IsReadable env.compile) (hs : ∀ s, v ≠ .string s) :
    Derives env .operand v.words (.literal v) ∧ v.same v = true := by
  cases v with
  | null =>
    have hsays : (Word.keyword "null").Says "null" := by decide +kernel
    exact ⟨.word hsays (by simp [fixedWords]), rfl⟩
  | bool b =>
    cases b with
    | true =>
      have hsays : (Word.keyword "True").Says "true" := by decide +kernel
      exact ⟨.word hsays (by simp [fixedWords]), rfl⟩
    | false =>
      have hsays : (Word.keyword "False").Says "false" := by decide +kernel
      exact ⟨.word hsays (by simp [fixedWords]), rfl⟩
  | int i => exact ⟨derives_signed (denotes_digitChars i), by simp [Value.same]⟩
  | float x =>
    rw [Value.words_float h]
    exact ⟨derives_signed (denotes_magnitudeText h),
      Decimal.sameNumber_self (Decimal.isNaN_of_isFinite h)⟩
  | string s => exact absurd rfl (hs s)
  | level l =>
    have hname : (Word.keyword l.name).Says l.name := ⟨rfl, beq_self_eq_true _⟩
    exact ⟨.level (by decide +kernel) rfl hname, by simp [Value.same]⟩
  | date d | exception e => exact absurd h (by simp [Value.IsReadable, Value.IsLiteral])

/-- A word that is an operand by itself is read back as what it stands for. -/
theorem exists_fixed {name : String} {e : Expr} {P : Expr → Prop} (h : (name, e) ∈ fixedWords)
    (hsame : e.same e = true) (hleaf : e.children = []) (hP : P e) :
    ∃ e', Derives env .operand [.keyword name] e' ∧ (e.same e' = true ↔ e.All P) :=
  ⟨e, .word ⟨rfl, beq_self_eq_true _⟩ h, iff_of_true hsame ((Expr.all_leaf hleaf).2 hP)⟩

/-- A string is read back as what it compiles to. -/
theorem derives_string {s : String} {e : Expr} (h : Compiles env.compile s e) :
    Derives env .operand (Value.string s).words e ∧
      ((Expr.literal (.string s)).same e = true ↔
        Compiles env.compile s (.literal (.string s))) := by
  refine ⟨.string rfl rfl h, ?_⟩
  cases h with
  | @constant l text hl hf =>
    have hsame : (Expr.literal (.string s)).same (.literal (.string text)) = (s == text) := rfl
    rw [hsame, beq_iff_eq]
    constructor
    · rintro rfl
      exact .constant hl hf
    · intro hself
      have := hself.unique (.constant hl hf)
      simpa using this
  | varying hl hf =>
    constructor
    · intro hsame
      exact absurd (show false = true from hsame) (by decide)
    · intro hself
      exact absurd (hself.unique (.varying hl hf)) (by simp)

/-- A string by itself is a condition. -/
theorem derives_quoted {s : String} {e : Expr} (h : Compiles env.compile s e) :
    Derives env .or [⟨.string, quotedText s⟩] e := by
  have hd : Derives env .operand [⟨.string, quotedText s⟩] e := .string rfl rfl h
  refine (Derives.notNone (.relationOne hd) ?_).or_of_not
  rintro w ⟨⟩
  exact Word.not_isNot_of_kind (by simp) (by simp)

/-! ## Trees -/

/-- Arguments are read back one by one. -/
theorem exists_arguments {P : Expr → Prop} {arguments : List Expr}
    (h : ∀ a ∈ arguments, ∃ a', Derives env .or a.words a' ∧ (a.same a' = true ↔ a.All P)) :
    ∃ pairs : List (List Word × Expr), pairs.length = arguments.length ∧
      Separated (pairs.map Prod.fst) (Expr.wordsAll arguments) ∧
      (∀ p ∈ pairs, Derives env .or p.1 p.2) ∧
      (Expr.sameAll arguments (pairs.map Prod.snd) = true ↔ ∀ a ∈ arguments, a.All P) := by
  induction arguments with
  | nil => exact ⟨[], rfl, .none, by simp, by simp [Expr.sameAll]⟩
  | cons a as ih =>
    obtain ⟨ha, has⟩ := List.forall_mem_cons.1 h
    obtain ⟨a', hd, hsame⟩ := ha
    obtain ⟨pairs, hlength, hsep, hpairs, hall⟩ := ih has
    refine ⟨(a.words, a') :: pairs, by simp [hlength], ?_, List.forall_mem_cons.2 ⟨hd, hpairs⟩, ?_⟩
    · cases as with
      | nil =>
        obtain rfl : pairs = [] := List.eq_nil_of_length_eq_zero hlength
        exact .last
      | cons b bs => exact .more rfl hsep
    · have hcons : Expr.sameAll (a :: as) (((a.words, a') :: pairs).map Prod.snd) =
          (a.same a' && Expr.sameAll as (pairs.map Prod.snd)) := rfl
      rw [hcons, Bool.and_eq_true, hsame, hall, List.forall_mem_cons]

/-- A call is read back with its method looked up anew. -/
theorem exists_call {name : String} {arguments : List Expr} {method : Method}
    (h : IsCallName env.resolve name arguments.length)
    (hargs : ∀ a ∈ arguments, ∃ a', Derives env .or a.words a' ∧
      (a.same a' = true ↔ a.All (Expr.IsStable env.compile))) :
    ∃ e', Derives env .operand (Expr.call name arguments method).words e' ∧
      ((Expr.call name arguments method).same e' = true ↔
        (Expr.call name arguments method).All (Expr.IsStable env.compile)) := by
  obtain ⟨pairs, hlength, hsep, hpairs, hall⟩ := exists_arguments hargs
  obtain ⟨method', hm⟩ := h.resolves
  rw [← hlength] at hm
  have hname : String.ofList (Word.keyword name).text = name := String.ofList_toList
  have hcall : Derives env .operand
      (.keyword name :: .leftParen :: (Expr.wordsAll arguments ++ [.rightParen]))
      (.call (String.ofList (Word.keyword name).text) (pairs.map Prod.snd) method') :=
    .call rfl h.not_reserved rfl hsep hpairs rfl (hname.symm ▸ hm)
  rw [hname] at hcall
  refine ⟨_, hcall, ?_⟩
  have hsame : (Expr.call name arguments method).same
      (.call name (pairs.map Prod.snd) method') =
      (name == name && Expr.sameAll arguments (pairs.map Prod.snd)) := rfl
  rw [hsame, beq_self_eq_true, Bool.true_and, hall, Expr.all_iff]
  exact (and_iff_right trivial).symm

/-- A comparison in parentheses is read back, if its first operand does not start with a denial. -/
theorem derives_relation {l r : List Word} {a b : Expr} (relation : Relation)
    (ha : Derives env .operand l a) (hb : Derives env .operand r b)
    (hl : ∀ w ∈ l.head?, ¬w.IsNot) :
    Derives env .operand (.leftParen :: (l ++ relation.word :: (r ++ [.rightParen])))
      (.relation relation a b) := by
  -- an operand has a first word, so the first word of the comparison is that of its left operand
  obtain ⟨w, ws, hws, _⟩ := ha.starts
  have hw : ∀ w ∈ (l ++ relation.word :: r).head?, ¬w.IsNot := by
    rw [hws] at hl ⊢
    exact hl
  exact .parens_binary (Derives.notNone (.relation ha relation.kind_relation? hb) hw).or_of_not

/-- **A canonical form derives, and from the same tree exactly if every string compiles to
itself.** -/
theorem exists_derives {e : Expr} (h : e.All (Expr.IsReadable env)) :
    ∃ e', Derives env .operand e.words e' ∧
      (e.same e' = true ↔ e.All (Expr.IsStable env.compile)) := by
  induction e using Expr.induction with
  | step e ih =>
    -- a child is read back both as an operand and as what stands beside a connective
    have inside : ∀ c ∈ e.children, ∃ c', Derives env .operand c.words c' ∧
        Derives env .not c.words c' ∧ (c.same c' = true ↔ c.All (Expr.IsStable env.compile)) := by
      intro c hc
      obtain ⟨c', hd, hsame⟩ := ih c hc (h.inside hc)
      exact ⟨c', hd, .notNone (.relationOne hd) (Expr.not_isNot_words (h.inside hc).here), hsame⟩
    cases e with
    | literal v =>
      rw [Expr.all_leaf rfl]
      by_cases hs : ∃ s, v = .string s
      · obtain ⟨s, rfl⟩ := hs
        obtain ⟨e', he⟩ := h.here
        exact ⟨e', derives_string he⟩
      · obtain ⟨hd, hsame⟩ := derives_literal h.here fun s hv => hs ⟨s, hv⟩
        refine ⟨.literal v, hd, iff_of_true hsame ?_⟩
        cases v <;> first | trivial | exact absurd ⟨_, rfl⟩ hs
    | layout l =>
      rw [Expr.all_leaf rfl]
      exact ⟨.layout l, .string rfl rfl h.here, iff_of_true (beq_self_eq_true l.template) trivial⟩
    | level => exact exists_fixed (by simp [fixedWords]) rfl rfl trivial
    | logger => exact exists_fixed (by simp [fixedWords]) rfl rfl trivial
    | message => exact exists_fixed (by simp [fixedWords]) rfl rfl trivial
    | exception => exact exists_fixed (by simp [fixedWords]) rfl rfl trivial
    | call name arguments method =>
      have hargs : ∀ a ∈ arguments, ∃ a', Derives env .or a.words a' ∧
          (a.same a' = true ↔ a.All (Expr.IsStable env.compile)) := fun a ha =>
        (inside a ha).imp fun a' h => ⟨h.2.1.or_of_not, h.2.2⟩
      exact exists_call h.here hargs
    | not a =>
      obtain ⟨a', -, ha, hsame⟩ := inside a (by simp [Expr.children])
      have hsays : (Word.keyword "not").Says "not" := by decide +kernel
      refine ⟨.not a', .parens rfl (Derives.not (Or.inl hsays) ha).or_of_not rfl, ?_⟩
      have hnot : (Expr.not a).same (.not a') = a.same a' := rfl
      rw [hnot, hsame, Expr.all_one (e := .not a) rfl]
      exact (and_iff_right trivial).symm
    | and a b =>
      obtain ⟨a', -, ha, hsamea⟩ := inside a (by simp [Expr.children])
      obtain ⟨b', -, hb, hsameb⟩ := inside b (by simp [Expr.children])
      have hsays : (Word.keyword "and").Says "and" := by decide +kernel
      refine ⟨.and a' b', .parens_binary (.orFirst (.andMore (.andFirst ha) (Or.inl hsays) hb)), ?_⟩
      have hsame : (Expr.and a b).same (.and a' b') = (a.same a' && b.same b') := rfl
      rw [hsame, Bool.and_eq_true, hsamea, hsameb, Expr.all_two (e := .and a b) rfl]
      exact (and_iff_right trivial).symm
    | or a b =>
      obtain ⟨a', -, ha, hsamea⟩ := inside a (by simp [Expr.children])
      obtain ⟨b', -, hb, hsameb⟩ := inside b (by simp [Expr.children])
      have hsays : (Word.keyword "or").Says "or" := by decide +kernel
      refine ⟨.or a' b', .parens_binary (.orMore ha.or_of_not (Or.inl hsays) (.andFirst hb)), ?_⟩
      have hsame : (Expr.or a b).same (.or a' b') = (a.same a' && b.same b') := rfl
      rw [hsame, Bool.and_eq_true, hsamea, hsameb, Expr.all_two (e := .or a b) rfl]
      exact (and_iff_right trivial).symm
    | relation r a b =>
      obtain ⟨a', ha, -, hsamea⟩ := inside a (by simp [Expr.children])
      obtain ⟨b', hb, -, hsameb⟩ := inside b (by simp [Expr.children])
      have hhead := Expr.not_isNot_words (h.inside (c := a) (by simp [Expr.children])).here
      refine ⟨.relation r a' b', derives_relation r ha hb hhead, ?_⟩
      have hsame : (Expr.relation r a b).same (.relation r a' b') =
        (r == r && a.same a' && b.same b') := rfl
      rw [hsame, beq_self_eq_true, Bool.true_and, Bool.and_eq_true, hsamea, hsameb,
        Expr.all_two (e := .relation r a b) rfl]
      exact (and_iff_right trivial).symm

/-! ## Whole texts -/

namespace Expr

/-- The canonical form of an expression is parsed as that which its words derive. -/
theorem parse_text_of_derives {e e' : Expr} (h : e.All IsSpelled)
    (hd : Derives env .operand e.words e') (hw : ∀ w ∈ e.words.head?, ¬w.IsNot) :
    Expr.parse env e.text = .ok e' := by
  obtain ⟨hc, hwords⟩ := words_ofText_text h
  refine Expr.parse_of_derives hc ?_
  rw [hwords]
  exact hd.or_of_operand hw

/-- A comparison is parsed as itself if its operands are read back as themselves. -/
theorem parse_text_relation {r : Relation} {a b : Expr} (h : (relation r a b).All IsSpelled)
    (ha : Derives env .operand a.words a) (hb : Derives env .operand b.words b)
    (hw : ∀ w ∈ a.words.head?, ¬w.IsNot) :
    Expr.parse env (relation r a b).text = .ok (relation r a b) := by
  refine parse_text_of_derives h (derives_relation r ha hb hw) ?_
  rintro w ⟨⟩
  exact Word.not_isNot_of_kind (by decide) (by decide)

/-- A canonical form that can be read is parsed, and as the same expression exactly if every string
compiles to itself. -/
theorem exists_parse_text {e : Expr} (h : e.All (IsReadable env)) :
    ∃ e', Expr.parse env e.text = .ok e' ∧
      (e.same e' = true ↔ e.All (IsStable env.compile)) := by
  obtain ⟨e', hd, hsame⟩ := exists_derives h
  have hspelled : e.All IsSpelled := h.mono fun _ => IsReadable.isSpelled
  exact ⟨e', parse_text_of_derives hspelled hd (not_isNot_words h.here), hsame⟩

end Expr

/-- A literal that is written so that it is read back: a string without a placeholder, a finite
double, or a value of another kind that has literals. -/
def Value.IsPrintable : Value → Prop
  | string s => Text.occursIn Template.opening s.toList = false
  | float x => Decimal.isFinite x = true
  | v => v.IsLiteral

namespace Expr

/-- A node as it can be written: a printable literal, a layout of a template with a part that
depends on the event, or a call whose name is one keyword, has no meaning of its own and belongs to
a method. -/
def IsPrintable (resolve : Resolver) : Expr → Prop
  | literal v => v.IsPrintable
  | layout l => ∃ template, Template.compile template = .ok l ∧ l.fixedText? = none
  | call name arguments _ =>
    (Tokens.ofText name).words = [.keyword name] ∧
      (∀ word ∈ "not" :: reservedWords, ¬(Word.keyword name).Says word) ∧
      ∃ method, resolve name arguments.length = .ok (some method)
  | _ => True

theorem compiles_self_iff {s : String} :
    Compiles Template.compile s (.literal (.string s)) ↔
      Text.occursIn Template.opening s.toList = false := by
  rw [← Template.compile_fixedText?_self_iff]
  constructor
  · intro h
    cases h with
    | constant hl hf => exact ⟨_, hl, hf⟩
  · rintro ⟨l, hl, hf⟩
    exact .constant hl hf

theorem compiles_layout {template : String} {l : Layout} (h : Template.compile template = .ok l)
    (hf : l.fixedText? = none) : Compiles Template.compile l.template (.layout l) := by
  rw [(Template.compile_eq_ok h).1]
  exact .varying h hf

variable {resolve : Resolver}

theorem IsPrintable.isReadable {e : Expr} (h : e.IsPrintable resolve) :
    e.IsReadable ⟨resolve, Template.compile⟩ := by
  cases e with
  | literal v =>
    cases v with
    | string s => exact ⟨_, compiles_self_iff.2 h⟩
    | _ => exact h
  | layout l =>
    obtain ⟨template, hl, hf⟩ := h
    exact compiles_layout hl hf
  | call name arguments method =>
    obtain ⟨hwords, hreserved, hresolves⟩ := h
    obtain ⟨hnot, hreserved⟩ := List.forall_mem_cons.1 hreserved
    have hproper := Tokens.areProper_ofChars 0 name.toList (.keyword name)
      (by rw [show Tokens.ofChars 0 name.toList = Tokens.ofText name from rfl, hwords]; simp)
    exact ⟨hproper, hreserved, hnot, hresolves⟩
  | _ => trivial

theorem IsPrintable.isStable {e : Expr} (h : e.IsPrintable resolve) :
    e.IsStable Template.compile := by
  cases e with
  | literal v =>
    cases v with
    | string s => exact compiles_self_iff.2 h
    | _ => trivial
  | _ => trivial

/-- **The canonical form of an expression is read back as the same expression.** -/
theorem parse_text {e : Expr} (h : e.All (IsPrintable resolve)) :
    ∃ e', Expr.parse ⟨resolve, Template.compile⟩ e.text = .ok e' ∧ e.same e' = true := by
  obtain ⟨e', hparse, hsame⟩ := exists_parse_text (h.mono fun _ => IsPrintable.isReadable)
  exact ⟨e', hparse, hsame.2 (h.mono fun _ => IsPrintable.isStable)⟩

/-- A comparison of numbers, or a denied call with a text that has a quote. -/
def sample : Expr :=
  .or
    (.relation .less (.literal (.int (-5)))
      (.literal (.float (Decimal.ofBits true 0x3FE0000000000000))))
    (.not (.call "contains" [.message, .literal (.string "it's")] Method.length))

/-- The sample is printable with the standard methods, though its method is another one. -/
theorem parse_text_sample :
    ∃ e', Expr.parse .standard sample.text = .ok e' ∧
      sample.same e' = true := by
  have hname : (Tokens.ofText "contains").words = [.keyword "contains"] := by
    have hbegins := begins_keyword_of_delimited (s := "contains") (by decide +kernel) delimited_nil
    rw [List.append_nil] at hbegins
    exact (begins_nil hbegins).2
  have leaf : ∀ {e : Expr}, e.IsPrintable Registry.standard.resolve → e.children = [] →
      e.All (IsPrintable Registry.standard.resolve) := fun h hc => (all_leaf hc).2 h
  have hfloat : Decimal.isFinite (Decimal.ofBits true 0x3FE0000000000000) = true := by
    decide +kernel
  have htext : Text.occursIn Template.opening "it's".toList = false := by decide +kernel
  have hrelation : (relation .less (literal (.int (-5)))
      (literal (.float (Decimal.ofBits true 0x3FE0000000000000)))).All
        (IsPrintable Registry.standard.resolve) := by
    rw [all_two rfl]
    exact ⟨trivial, leaf trivial rfl, leaf hfloat rfl⟩
  have hcall : (call "contains" [.message, .literal (.string "it's")] Method.length).All
      (IsPrintable Registry.standard.resolve) := by
    rw [all_two rfl]
    exact ⟨⟨hname, by decide +kernel, _, rfl⟩, leaf trivial rfl, leaf htext rfl⟩
  refine parse_text ?_
  rw [sample, all_two rfl]
  exact ⟨trivial, hrelation, (all_one rfl).2 ⟨trivial, hcall⟩⟩

example : sample.text = "((-5 < -0.5) or (not contains(message, 'it''s')))" := by decide +kernel

end Expr

end LogFilter
