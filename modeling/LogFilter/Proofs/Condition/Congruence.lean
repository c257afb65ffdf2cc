import LogFilter.Condition.Eval
import LogFilter.Proofs.Condition.Reproduction
import LogFilter.Proofs.Value.Zeros

/-!
# The same conditions

Expressions are the same by what is written in them: the templates of layouts, the names of calls and
the values of literals. If both were parsed in the same surroundings, the layouts and methods are the
same too, and so the evaluations of both go alike, with one exception: both zeros are the same value,
but their texts are not. The text of a zero matters if the zero is an argument of a call, for a method
may look at it, or if it is compared with a string that is no number, `Expr.zerosAgree`.

The evaluations of the same expressions in which the zeros agree at these places end alike for every
event, `Expr.evaluate_alike`: with the same values or with errors of the same kind.
-/

namespace LogFilter

/-! ## Ends that are alike -/

/-- Errors are of the same kind if they differ at most in the text of an expression. -/
inductive EvalError.SameKind : EvalError → EvalError → Prop
  | notBoolean (kind : Kind) (s t : String) : SameKind (notBoolean kind s) (notBoolean kind t)
  | refl (error : EvalError) : SameKind error error

/-- Two evaluations end alike: with related results or with errors of the same kind. -/
inductive Alike {α : Type} (R : α → α → Prop) : Except EvalError α → Except EvalError α → Prop
  | ok {v w : α} (h : R v w) : Alike R (.ok v) (.ok w)
  | error {x y : EvalError} (h : x.SameKind y) : Alike R (.error x) (.error y)

namespace Alike

variable {α β : Type} {R : α → α → Prop} {S : β → β → Prop}

theorem refl (h : ∀ v, R v v) : ∀ x, Alike R x x
  | .ok v => .ok (h v)
  | .error e => .error (.refl e)

theorem map {x y : Except EvalError α} (h : Alike R x y) {f g : α → β}
    (hf : ∀ v w, R v w → S (f v) (g w)) : Alike S (x.map f) (y.map g) := by
  cases h with
  | ok h => exact .ok (hf _ _ h)
  | error h => exact .error h

theorem mono {R' : α → α → Prop} {x y : Except EvalError α} (h : Alike R x y)
    (himp : ∀ v w, R v w → R' v w) : Alike R' x y := by
  cases h with
  | ok h => exact .ok (himp _ _ h)
  | error h => exact .error h

/-- What is done with related results ends alike if it does so for each two of them. -/
theorem bind {x y : Except EvalError α} (h : Alike R x y) {f g : α → Except EvalError β}
    (hf : ∀ v w, x = .ok v → R v w → Alike S (f v) (g w)) : Alike S (x >>= f) (y >>= g) := by
  cases h with
  | ok h => exact hf _ _ rfl h
  | error h => exact .error h

end Alike

namespace Expr

/-- Truth values are found alike in values that agree. -/
theorem alike_asBoolean {exact : Bool} {a b : Expr} {x y : Except EvalError Value}
    (h : Alike (Value.Agrees exact) x y) : Alike Eq (a.asBoolean x) (b.asBoolean y) := by
  cases h with
  | error h => exact .error h
  | @ok v w h =>
    simp only [asBoolean, h.asBool?_eq, h.kind_eq]
    cases w.asBool? with
    | some b => exact .ok rfl
    | none => exact .error (.notBoolean _ _ _)

theorem alike_conjunction {x x' y y' : Except EvalError Bool} (hx : Alike Eq x x')
    (hy : Alike Eq y y') : Alike Eq (conjunction x fun _ => y) (conjunction x' fun _ => y') := by
  cases hx with
  | error h => exact .error h
  | @ok b _ h =>
    subst h
    cases b with
    | true => exact hy
    | false => exact .ok rfl

theorem alike_disjunction {x x' y y' : Except EvalError Bool} (hx : Alike Eq x x')
    (hy : Alike Eq y y') : Alike Eq (disjunction x fun _ => y) (disjunction x' fun _ => y') := by
  cases hx with
  | error h => exact .error h
  | @ok b _ h =>
    subst h
    cases b with
    | true => exact .ok rfl
    | false => exact hy

/-! ## Where the text of a zero matters -/

/-- Whether the value of an expression can be a string that is no number. -/
def canBeTextOnly : Expr → Bool
  | literal v => v.isTextOnly
  | layout _ | logger | message | call _ _ _ => true
  | _ => false

mutual

/-- Whether in two expressions that are the same the zeros are of one sign where their texts matter:
among the arguments of calls, in comparisons with what can be a string that is no number, and at the
top if the whole expressions stand in such a place. -/
def zerosAgree (textMatters : Bool) : Expr → Expr → Bool
  | literal (.float x), literal (.float y) =>
    !textMatters || Decimal.isNegative x == Decimal.isNegative y
  | call _ as _, call _ bs _ => zerosAgreeAll as bs
  | not a, not b => zerosAgree false a b
  | and a b, and c d => zerosAgree false a c && zerosAgree false b d
  | or a b, or c d => zerosAgree false a c && zerosAgree false b d
  | relation _ a b, relation _ c d =>
    zerosAgree b.canBeTextOnly a c && zerosAgree a.canBeTextOnly b d
  | _, _ => true

/-- Whether the zeros agree in arguments. -/
def zerosAgreeAll : List Expr → List Expr → Bool
  | a :: as, b :: bs => zerosAgree true a b && zerosAgreeAll as bs
  | _, _ => true

end

/-- An expression has a value that is only a text at most if its form allows it. -/
theorem canBeTextOnly_of_evaluate {event : Event} {e : Expr} {v : Value}
    (h : evaluate event e = .ok v) (hv : v.isTextOnly = true) : e.canBeTextOnly = true := by
  have ofBool : ∀ {x : Except EvalError Bool} {f : Bool → Value},
      (∀ b, (f b).isTextOnly = false) → x.map f = .ok v → e.canBeTextOnly = true := by
    intro x f hf hx
    obtain ⟨b, _, rfl⟩ := Except.map_eq_ok.1 hx
    exact absurd hv (by simp [hf])
  cases e with
  | literal w =>
    obtain rfl := Except.ok.inj h
    exact hv
  | level =>
    obtain rfl := Except.ok.inj h
    exact absurd hv Bool.false_ne_true
  | exception =>
    rw [evaluate] at h
    split at h <;> obtain rfl := Except.ok.inj h <;> exact absurd hv Bool.false_ne_true
  | not a | and a b | or a b => exact ofBool (fun _ => rfl) h
  | relation r a b =>
    rw [evaluate_relation] at h
    obtain ⟨left, -, h⟩ := Except.bind_eq_ok.1 h
    obtain ⟨right, -, h⟩ := Except.bind_eq_ok.1 h
    exact ofBool (fun _ => rfl) h
  | layout | logger | message | call => rfl

/-! ## The same expressions -/

/-- The same literals in which zeros agree have values that agree. -/
theorem agrees_of_literal {exact : Bool} {v w : Value} (h : v.same w = true)
    (hz : zerosAgree exact (.literal v) (.literal w) = true) : v.Agrees exact w := by
  obtain rfl | ⟨x, y, rfl, rfl, hxy⟩ := Value.eq_or_float_of_same h
  · exact .refl exact v
  · rw [zerosAgree, Bool.or_eq_true, Bool.not_eq_true', beq_iff_eq] at hz
    rcases hz with hexact | hsign
    · exact .inr ⟨hexact, h⟩
    · exact .inl (congrArg Value.float (Decimal.eq_of_sameNumber hxy hsign))

/-- Layouts know the templates from which they were compiled. -/
def KeepsTemplates (compile : LayoutCompiler) : Prop :=
  ∀ template l, compile template = .ok l → l.template = template

theorem keepsTemplates_compile : KeepsTemplates Template.compile :=
  fun _ _ h => (Template.compile_eq_ok h).1

theorem layout_eq_of_same {env : Surroundings} (hkeeps : KeepsTemplates env.compile) {l m : Layout}
    (hl : (layout l).IsFormed env) (hm : (layout m).IsFormed env)
    (h : (layout l).same (layout m) = true) : l = m := by
  obtain ⟨s, hl⟩ := hl
  obtain ⟨t, hm⟩ := hm
  cases hl with
  | varying hl _ =>
    cases hm with
    | varying hm _ =>
      have htemplate : l.template = m.template := beq_iff_eq.1 h
      rw [hkeeps _ _ hl, hkeeps _ _ hm] at htemplate
      rw [htemplate] at hl
      exact Except.ok.inj (hl.symm.trans hm)

/-- The length of the same arguments is the same. -/
theorem length_eq_of_sameAll {as bs : List Expr} (h : sameAll as bs = true) :
    as.length = bs.length := by
  induction as generalizing bs with
  | nil =>
    cases bs with
    | nil => rfl
    | cons b bs => exact absurd h Bool.false_ne_true
  | cons a as ih =>
    cases bs with
    | nil => exact absurd h Bool.false_ne_true
    | cons b bs =>
      rw [sameAll, Bool.and_eq_true] at h
      rw [List.length_cons, List.length_cons, ih h.2]

/-- A name stands for one method with the same arguments. -/
theorem method_eq_of_sameAll {env : Surroundings} {name : String} {as bs : List Expr}
    {method method' : Method} (ha : (call name as method).IsFormed env)
    (hb : (call name bs method').IsFormed env) (h : sameAll as bs = true) : method = method' := by
  have hfound : env.resolve name as.length = .ok (some method) := ha.2.2
  rw [length_eq_of_sameAll h, hb.2.2] at hfound
  exact (Option.some.inj (Except.ok.inj hfound)).symm

/-! ## The same evaluations -/

section

variable {event : Event}

/-- Arguments that end alike one by one, with identical values, end alike together. -/
theorem alike_evaluateAll {as bs : List Expr} (hsame : sameAll as bs = true)
    (hz : zerosAgreeAll as bs = true)
    (h : ∀ a ∈ as, ∀ b ∈ bs, a.same b = true → zerosAgree true a b = true →
      Alike (Value.Agrees true) (evaluate event a) (evaluate event b)) :
    Alike Eq (evaluateAll event as) (evaluateAll event bs) := by
  induction as generalizing bs with
  | nil =>
    cases bs with
    | nil => exact .ok rfl
    | cons b bs => exact absurd hsame Bool.false_ne_true
  | cons a as ih =>
    cases bs with
    | nil => exact absurd hsame Bool.false_ne_true
    | cons b bs =>
      rw [sameAll, Bool.and_eq_true] at hsame
      rw [zerosAgreeAll, Bool.and_eq_true] at hz
      have hfirst := h a List.mem_cons_self b List.mem_cons_self hsame.1 hz.1
      have hrest := ih hsame.2 hz.2 fun c hc d hd =>
        h c (List.mem_cons_of_mem _ hc) d (List.mem_cons_of_mem _ hd)
      rw [evaluateAll_cons, evaluateAll_cons]
      refine hfirst.bind fun v w _ hvw => ?_
      obtain rfl := hvw.eq
      exact hrest.map fun vs ws hvs => congrArg (v :: ·) hvs

theorem alike_not {a b : Expr}
    (h : Alike (Value.Agrees false) (evaluate event a) (evaluate event b)) :
    Alike Eq (evaluate event (not a)) (evaluate event (not b)) := by
  rw [evaluate, evaluate]
  exact (alike_asBoolean h).map fun x y hxy => by rw [hxy]

section

variable {a b c d : Expr}

theorem alike_and (hac : Alike (Value.Agrees false) (evaluate event a) (evaluate event c))
    (hbd : Alike (Value.Agrees false) (evaluate event b) (evaluate event d)) :
    Alike Eq (evaluate event (and a b)) (evaluate event (and c d)) := by
  rw [evaluate, evaluate]
  exact (alike_conjunction (alike_asBoolean hac) (alike_asBoolean hbd)).map
    fun _ _ => congrArg Value.bool

theorem alike_or (hac : Alike (Value.Agrees false) (evaluate event a) (evaluate event c))
    (hbd : Alike (Value.Agrees false) (evaluate event b) (evaluate event d)) :
    Alike Eq (evaluate event (or a b)) (evaluate event (or c d)) := by
  rw [evaluate, evaluate]
  exact (alike_disjunction (alike_asBoolean hac) (alike_asBoolean hbd)).map
    fun _ _ => congrArg Value.bool

/-- A comparison ends alike if the values agree, and are identical next to what can be only a
text. -/
theorem alike_relation {r : Relation}
    (hac : Alike (Value.Agrees b.canBeTextOnly) (evaluate event a) (evaluate event c))
    (hbd : Alike (Value.Agrees a.canBeTextOnly) (evaluate event b) (evaluate event d)) :
    Alike Eq (evaluate event (relation r a b)) (evaluate event (relation r c d)) := by
  rw [evaluate_relation, evaluate_relation]
  refine hac.bind fun left left' hleft hl => hbd.bind fun right right' hright hr => ?_
  -- a value that is only a text comes from an expression that can be one, next to which the other
  -- value was asked to be identical
  have hl : left.Agrees right.isTextOnly left' :=
    hl.mono fun h => canBeTextOnly_of_evaluate hright h
  have hr : right.Agrees left.isTextOnly right' :=
    hr.mono fun h => canBeTextOnly_of_evaluate hleft h
  rw [Value.satisfies_congr hl hr]
  exact .refl (fun _ => rfl) _

end

/-- **The same expressions end alike** where the zeros agree. -/
theorem alike_of_same {env : Surroundings} (hkeeps : KeepsTemplates env.compile) {exact : Bool}
    {a b : Expr} (ha : a.All (IsFormed env)) (hb : b.All (IsFormed env)) (hsame : a.same b = true)
    (hz : zerosAgree exact a b = true) :
    Alike (Value.Agrees exact) (evaluate event a) (evaluate event b) := by
  induction a using Expr.induction generalizing b exact with
  | step a ih =>
    have inside : ∀ c ∈ a.children, ∀ d ∈ b.children, ∀ exact, c.same d = true →
        zerosAgree exact c d = true →
        Alike (Value.Agrees exact) (evaluate event c) (evaluate event d) :=
      fun c hc d hd _ => ih c hc (ha.inside hc) (hb.inside hd)
    have operands : ∀ {c c' d d' : Expr} {left right : Bool}, a.children = [c, c'] →
        b.children = [d, d'] → c.same d = true ∧ c'.same d' = true →
        zerosAgree left c d = true ∧ zerosAgree right c' d' = true →
        Alike (Value.Agrees left) (evaluate event c) (evaluate event d) ∧
          Alike (Value.Agrees right) (evaluate event c') (evaluate event d') :=
      fun hac hbd hs hz =>
        ⟨inside _ (by simp [hac]) _ (by simp [hbd]) _ hs.1 hz.1,
          inside _ (by simp [hac]) _ (by simp [hbd]) _ hs.2 hz.2⟩
    -- expressions that are the same have the same form, so each case has one in which something
    -- is to be shown
    cases a with
    | literal v =>
      cases b with
      | literal w => exact .ok (agrees_of_literal hsame hz)
      | _ => exact absurd hsame Bool.false_ne_true
    | layout l =>
      cases b with
      | layout m =>
        obtain rfl := layout_eq_of_same hkeeps ha.here hb.here hsame
        exact .refl (Value.Agrees.refl exact) _
      | _ => exact absurd hsame Bool.false_ne_true
    | level | logger | message | exception =>
      cases b <;> first
        | exact .refl (Value.Agrees.refl exact) _
        | exact absurd hsame Bool.false_ne_true
    | call name arguments method =>
      cases b with
      | call name' arguments' method' =>
        obtain ⟨hname, harguments⟩ := Bool.and_eq_true_iff.1 hsame
        obtain rfl : name = name' := beq_iff_eq.1 hname
        obtain rfl := method_eq_of_sameAll ha.here hb.here harguments
        -- a method can look at all of a value, so the arguments have to be identical
        have hall := alike_evaluateAll harguments hz fun c hc d hd => inside c hc d hd true
        rw [evaluate_call, evaluate_call]
        refine hall.bind fun values values' _ hvalues => ?_
        subst hvalues
        exact .refl (Value.Agrees.refl exact) _
      | _ => exact absurd hsame Bool.false_ne_true
    | not c =>
      cases b with
      | not d =>
        have hcd := inside c (by simp [children]) d (by simp [children]) false hsame hz
        exact (alike_not hcd).mono fun _ _ => .inl
      | _ => exact absurd hsame Bool.false_ne_true
    | and c c' =>
      cases b with
      | and d d' =>
        obtain ⟨hleft, hright⟩ :=
          operands rfl rfl (Bool.and_eq_true_iff.1 hsame) (Bool.and_eq_true_iff.1 hz)
        exact (alike_and hleft hright).mono fun _ _ => .inl
      | _ => exact absurd hsame Bool.false_ne_true
    | or c c' =>
      cases b with
      | or d d' =>
        obtain ⟨hleft, hright⟩ :=
          operands rfl rfl (Bool.and_eq_true_iff.1 hsame) (Bool.and_eq_true_iff.1 hz)
        exact (alike_or hleft hright).mono fun _ _ => .inl
      | _ => exact absurd hsame Bool.false_ne_true
    | relation r c c' =>
      cases b with
      | relation r' d d' =>
        obtain ⟨hhead, hs'⟩ := Bool.and_eq_true_iff.1 hsame
        obtain ⟨hr, hs⟩ := Bool.and_eq_true_iff.1 hhead
        obtain rfl : r = r' := beq_iff_eq.1 hr
        obtain ⟨hleft, hright⟩ := operands rfl rfl ⟨hs, hs'⟩ (Bool.and_eq_true_iff.1 hz)
        exact (alike_relation hleft hright).mono fun _ _ => .inl
      | _ => exact absurd hsame Bool.false_ne_true

end

/-- **Parsed conditions that are the same end alike for every event**, with values that are the same
or errors of the same kind, where the zeros agree. -/
theorem evaluate_alike {env : Surroundings} (hkeeps : KeepsTemplates env.compile) {s t : String}
    {a b : Expr} (ha : Expr.parse env s = .ok a) (hb : Expr.parse env t = .ok b)
    (hsame : a.same b = true) (hz : zerosAgree false a b = true) (event : Event) :
    Alike (Value.Agrees false) (evaluate event a) (evaluate event b) :=
  alike_of_same hkeeps (isFormed_of_parse ha) (isFormed_of_parse hb) hsame hz

/-! ## Conditions on zeros -/

theorem isReadable_zero (negative : Bool) :
    (Value.zero negative).IsReadable Surroundings.standard.compile := by
  show Decimal.isFinite (Decimal.ofBits negative 0) = true
  cases negative <;> decide +kernel

theorem not_isNot_zero (negative : Bool) :
    ∀ w ∈ (Value.zero negative).words.head?, ¬w.IsNot :=
  Value.not_isNot_words (isReadable_zero negative)

theorem derives_zero (negative : Bool) :
    Derives .standard .operand (Value.zero negative).words (.literal (.zero negative)) :=
  (derives_literal (isReadable_zero negative) (by simp [Value.zero])).1

/-- A zero compared with the whole number zero. -/
def zeroIsZero (negative : Bool) : Expr :=
  .relation .equal (.literal (.zero negative)) (.literal (.int 0))

theorem parse_zeroIsZero (negative : Bool) :
    Expr.parse .standard (zeroIsZero negative).text = .ok (zeroIsZero negative) := by
  have hspelled : (zeroIsZero negative).All IsSpelled := by
    rw [zeroIsZero, all_two rfl]
    exact ⟨trivial, (all_leaf rfl).2 trivial, (all_leaf rfl).2 trivial⟩
  have hint : Derives .standard .operand (Value.int 0).words (.literal (.int 0)) :=
    (derives_literal (v := .int 0) trivial (by simp)).1
  exact parse_text_relation hspelled (derives_zero negative) hint (not_isNot_zero negative)

/-- Next to a whole number it makes no difference which zero is compared. -/
theorem evaluate_alike_zeroIsZero :
    (zeroIsZero false).same (zeroIsZero true) = true ∧
      ∀ event, Alike (Value.Agrees false) (evaluate event (zeroIsZero false))
        (evaluate event (zeroIsZero true)) := by
  have hsame : (zeroIsZero false).same (zeroIsZero true) = true := by decide +kernel
  exact ⟨hsame, evaluate_alike keepsTemplates_compile (parse_zeroIsZero false)
    (parse_zeroIsZero true) hsame rfl⟩

/-- The length of the text of a zero. -/
def lengthOfZero (negative : Bool) : Expr :=
  .call "length" [.literal (.zero negative)] Method.length

theorem parse_lengthOfZero (negative : Bool) :
    Expr.parse .standard (lengthOfZero negative).text = .ok (lengthOfZero negative) := by
  have hspelled : (lengthOfZero negative).All IsSpelled := by
    rw [lengthOfZero, all_one rfl]
    have hname : IsKeyword "length".toList := by decide +kernel
    exact ⟨hname, (all_leaf rfl).2 trivial⟩
  have hargument := (derives_zero negative).or_of_operand (not_isNot_zero negative)
  have hreserved : ∀ reserved ∈ reservedWords, ¬(Word.keyword "length").Says reserved := by
    decide +kernel
  have hseparated : Separated
      ([((Value.zero negative).words, Expr.literal (.zero negative))].map Prod.fst)
      (Value.zero negative).words := .last
  have hcall : Derives .standard .operand
      (.keyword "length" :: .leftParen :: ((Value.zero negative).words ++ [.rightParen]))
      (.call "length" [.literal (.zero negative)] Method.length) :=
    .call rfl hreserved rfl hseparated (List.forall_mem_singleton.2 hargument) rfl rfl
  refine parse_text_of_derives hspelled hcall ?_
  rintro w ⟨⟩
  decide +kernel

theorem evaluate_lengthOfZero (negative : Bool) (event : Event) :
    evaluate event (lengthOfZero negative) = .ok (.int (if negative then 4 else 3)) := by
  show Except.ok (Value.ofNat (Value.zero negative).text.toList.length) = _
  rw [Value.text_zero]
  cases negative <;> rfl

/-- A zero compared with a string that is no number. -/
def textBelowZero (negative : Bool) : Expr :=
  .relation .less (.literal (.string "-5x")) (.literal (.zero negative))

theorem parse_textBelowZero (negative : Bool) :
    Expr.parse .standard (textBelowZero negative).text = .ok (textBelowZero negative) := by
  have hspelled : (textBelowZero negative).All IsSpelled := by
    rw [textBelowZero, all_two rfl]
    exact ⟨trivial, (all_leaf rfl).2 trivial, (all_leaf rfl).2 trivial⟩
  have hplain : Text.occursIn Template.opening "-5x".toList = false := by decide +kernel
  refine parse_text_relation hspelled (.string rfl rfl (compiles_self_iff.2 hplain))
    (derives_zero negative) ?_
  rintro w ⟨⟩
  decide +kernel

theorem evaluate_textBelowZero (negative : Bool) (event : Event) :
    evaluate event (textBelowZero negative) = .ok (.bool !negative) := by
  have htext : (Value.string "-5x").isTextOnly = true := by decide +kernel
  have hcompared : Relation.less.holds (compare "-5x" (Value.zero negative).text) =
      !negative := by
    rw [Value.text_zero]
    cases negative <;> decide +kernel
  rw [textBelowZero, evaluate_relation]
  show ((Value.satisfies .less (.string "-5x") (.zero negative)).mapError
    EvalError.comparison).map Value.bool = _
  rw [Value.zero, Value.satisfies_of_isTextOnly htext, ← Value.zero, hcompared]
  rfl

theorem not_alike_of_ok {x y : Except EvalError Value} {v w : Value} (hx : x = .ok v)
    (hy : y = .ok w) (h : ¬v.Agrees false w) : ¬Alike (Value.Agrees false) x y := by
  subst hx hy
  rintro ⟨⟩
  contradiction

/-- The lengths of the texts of both zeros differ, and so do comparisons of these texts. -/
theorem same_not_congruent :
    (Expr.parse .standard "length(0.0)" = .ok (lengthOfZero false) ∧
      Expr.parse .standard "length(-0.0)" = .ok (lengthOfZero true) ∧
      (lengthOfZero false).same (lengthOfZero true) = true ∧
      ∀ event, ¬Alike (Value.Agrees false) (evaluate event (lengthOfZero false))
        (evaluate event (lengthOfZero true))) ∧
    Expr.parse .standard "('-5x' < 0.0)" = .ok (textBelowZero false) ∧
      Expr.parse .standard "('-5x' < -0.0)" = .ok (textBelowZero true) ∧
      (textBelowZero false).same (textBelowZero true) = true ∧
      ∀ event, ¬Alike (Value.Agrees false) (evaluate event (textBelowZero false))
        (evaluate event (textBelowZero true)) := by
  have hlength : (lengthOfZero false).text = "length(0.0)" ∧
      (lengthOfZero true).text = "length(-0.0)" := by decide +kernel
  have hbelow : (textBelowZero false).text = "('-5x' < 0.0)" ∧
      (textBelowZero true).text = "('-5x' < -0.0)" := by decide +kernel
  refine ⟨⟨hlength.1 ▸ parse_lengthOfZero false, hlength.2 ▸ parse_lengthOfZero true,
      by decide +kernel, fun event => ?_⟩,
    hbelow.1 ▸ parse_textBelowZero false, hbelow.2 ▸ parse_textBelowZero true,
      by decide +kernel, fun event => ?_⟩
  · refine not_alike_of_ok (evaluate_lengthOfZero false event) (evaluate_lengthOfZero true event) ?_
    simp [Value.Agrees, Value.same]
  · refine not_alike_of_ok (evaluate_textBelowZero false event)
      (evaluate_textBelowZero true event) ?_
    simp [Value.Agrees, Value.same]

end Expr

end LogFilter
