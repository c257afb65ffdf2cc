import LogFilter.Except
import LogFilter.Layout.Template
import LogFilter.Proofs.Text.Cuts
import LogFilter.Text.Taken

/-!
# Fixed texts of templates

A template without a placeholder is its own fixed text. A template with one is longer than its fixed
text, because a placeholder takes up more characters than what it can stand for: only an option that
stands in it. So a template is its own fixed text exactly if it has no placeholder,
`compile_fixedText?_self_iff`.

Text after a literal part is taken up by it. Neither the fixed text nor what is rendered shows that:
both are those of the part and the text side by side, `fixedText?_followedBy_append` and
`renderParts_followedBy_append`.
-/

namespace LogFilter

namespace Text

theorem length_trimEnd_le (s : List Char) : (trimEnd s).length ≤ s.length := by
  rw [trimEnd, List.length_reverse, ← s.length_reverse]
  exact length_dropWhile_le _ _

theorem length_trim_le (s : List Char) : (trim s).length ≤ s.length :=
  Nat.le_trans (length_trimEnd_le _) (length_trimStart_le s)

end Text

namespace Template

open Text

/-! ## Placeholders -/

/-- The value of an option is a part of the options. -/
theorem requiredOption_length {renderer key value : String} {options : Option (List Char)}
    (h : requiredOption renderer options key = .ok value) :
    ∃ s, options = some s ∧ value.toList.length ≤ s.length := by
  unfold requiredOption at h
  cases options with
  | none => exact absurd h (by simp)
  | some s =>
    refine ⟨s, rfl, ?_⟩
    simp only at h
    split at h
    · exact absurd h (by simp)
    split at h
    · exact (Except.ok.inj h) ▸ Nat.le_of_eq (congrArg List.length String.toList_ofList)
    · next name rest hb =>
      split at h
      · rw [← Except.ok.inj h, String.toList_ofList]
        have hlength := congrArg List.length (eq_of_breakOn hb)
        have htrim := length_trim_le rest
        simp only [List.length_append] at hlength
        omega
      · exact absurd h (by simp)

/-- The fixed text of a placeholder is a part of what stands between its braces. -/
theorem placeholder_length {body : List Char} {part : Part} {text : String}
    (h : placeholder body = .ok part) (ht : part.fixedText? = some text) :
    text.toList.length ≤ body.length := by
  obtain rfl : part = .literal text := by
    cases part <;> simp_all [Part.fixedText?]
  unfold placeholder at h
  split at h
  next nameText options hpair =>
  have hoptions : ∀ s ∈ options, s.length ≤ body.length := by
    intro s hs
    cases hb : breakOn [':'] body with
    | none =>
      rw [hb, Prod.mk.injEq] at hpair
      exact absurd hs (by simp [← hpair.2])
    | some p =>
      rw [hb, Prod.mk.injEq] at hpair
      obtain rfl : trim p.2 = s := by simpa [← hpair.2] using hs
      have hlength := congrArg List.length (eq_of_breakOn hb)
      have htrim := length_trim_le p.2
      simp only [List.length_append] at hlength
      omega
  simp only at h
  split at h
  -- of all renderers only one stands for a fixed text
  case h_9 =>
    obtain ⟨value, hvalue, heq⟩ := Except.map_eq_ok.1 h
    obtain ⟨s, hs, hlength⟩ := requiredOption_length hvalue
    obtain rfl : value = text := by simpa using heq
    exact Nat.le_trans hlength (hoptions s hs)
  case h_5 | h_6 | h_7 | h_8 =>
    obtain ⟨value, _, heq⟩ := Except.map_eq_ok.1 h
    exact absurd heq (by simp)
  all_goals exact absurd h (by simp)

/-! ## Fixed texts -/

theorem fixedText?_cons {part : Part} {parts : List Part} {text : String} :
    fixedText? (part :: parts) = some text ↔
      ∃ a b, part.fixedText? = some a ∧ fixedText? parts = some b ∧ text = a ++ b := by
  unfold fixedText?
  rw [List.mapM_cons]
  cases part.fixedText? with
  | none => simp
  | some a => cases parts.mapM Part.fixedText? <;> simp [String.join_cons, eq_comm]

theorem fixedText?_literalParts_append {s : List Char} {parts : List Part} {text : String} :
    fixedText? (literalParts s ++ parts) = some text ↔
      ∃ b, fixedText? parts = some b ∧ text = String.ofList s ++ b := by
  unfold literalParts
  split
  · next he =>
    obtain rfl : s = [] := List.isEmpty_iff.1 he
    simp
  · rw [List.singleton_append, fixedText?_cons]
    simp [Part.fixedText?]

theorem fixedText?_literalParts (s : List Char) :
    fixedText? (literalParts s) = some (String.ofList s) := by
  unfold literalParts
  split
  · next he =>
    obtain rfl : s = [] := List.isEmpty_iff.1 he
    rfl
  · rw [fixedText?_cons]
    exact ⟨_, "", rfl, rfl, by simp⟩

/-- A text that is taken up by a literal stays in the fixed text. -/
theorem fixedText?_followedBy_append (text : List Char) (part : Part) (parts : List Part) :
    fixedText? (part.followedBy text ++ parts) =
      fixedText? (part :: (literalParts text ++ parts)) := by
  cases part with
  | literal before =>
    refine Option.ext fun fixed => ?_
    rw [Part.followedBy, List.singleton_append, fixedText?_cons, fixedText?_cons]
    constructor
    · rintro ⟨_, b, ⟨⟩, hb, rfl⟩
      refine ⟨before, String.ofList text ++ b, rfl, ?_, String.append_assoc⟩
      exact fixedText?_literalParts_append.2 ⟨b, hb, rfl⟩
    · rintro ⟨_, b, ⟨⟩, hb, rfl⟩
      obtain ⟨c, hc, rfl⟩ := fixedText?_literalParts_append.1 hb
      exact ⟨_, c, rfl, hc, String.append_assoc.symm⟩
  | _ => rfl

/-- The fixed text of a template is no longer than it, and shorter if there is a placeholder. -/
theorem fixedText?_length {template fixed : String} {s text : List Char} {parts : List Part}
    (h : partsOf template s = .ok (text, parts))
    (ht : fixedText? (literalParts text ++ parts) = some fixed) :
    fixed.toList.length ≤ s.length ∧
      (occursIn opening s = true → fixed.toList.length < s.length) := by
  fun_induction partsOf template s generalizing text parts fixed with
  | case1 s hb =>
    obtain ⟨rfl, rfl⟩ := Prod.mk.inj (Except.ok.inj h)
    rw [List.append_nil, fixedText?_literalParts, Option.some.injEq] at ht
    rw [← ht, String.toList_ofList]
    rw [breakOn_eq_none_iff] at hb
    exact ⟨Nat.le_refl _, fun ho => absurd (ho.symm.trans hb) (by decide)⟩
  | case2 => exact absurd h (by simp)
  | case3 s before after hb body rest hc ih =>
    obtain ⟨part, hpart, h⟩ := Except.bind_eq_ok.1 h
    obtain ⟨⟨next, others⟩, hothers, h⟩ := Except.bind_eq_ok.1 h
    obtain ⟨rfl, rfl⟩ := Prod.mk.inj (Except.ok.inj h)
    obtain ⟨b, hb', rfl⟩ := fixedText?_literalParts_append.1 ht
    rw [fixedText?_followedBy_append] at hb'
    obtain ⟨t, u, htext, hu, rfl⟩ := fixedText?_cons.1 hb'
    have hbody := placeholder_length hpart htext
    have hrest := (ih hothers hu).1
    have hs := congrArg List.length (eq_of_breakOn hb)
    have hafter := congrArg List.length (eq_of_breakOn hc)
    simp only [opening, closing, List.length_append, List.length_cons, List.length_nil] at hs hafter
    simp only [String.toList_append, List.length_append, String.toList_ofList]
    omega

/-! ## Rendering -/

theorem renderParts_cons (event : Event) (part : Part) (parts : List Part) :
    renderParts event (part :: parts) = part.render event ++ renderParts event parts := by
  rw [renderParts, List.map_cons, String.join_cons]
  rfl

theorem renderParts_append (event : Event) (parts others : List Part) :
    renderParts event (parts ++ others) = renderParts event parts ++ renderParts event others := by
  rw [renderParts, List.map_append, String.join_append]
  rfl

theorem renderParts_literalParts (event : Event) (s : List Char) :
    renderParts event (literalParts s) = String.ofList s := by
  unfold literalParts
  split
  · next he =>
    obtain rfl : s = [] := List.isEmpty_iff.1 he
    rfl
  · rw [renderParts_cons]
    exact String.append_empty

/-- A text that is taken up by a literal is rendered as it is by itself. -/
theorem renderParts_followedBy_append (event : Event) (text : List Char) (part : Part)
    (parts : List Part) : renderParts event (part.followedBy text ++ parts) =
      renderParts event (part :: (literalParts text ++ parts)) := by
  cases part with
  | literal before =>
    rw [Part.followedBy, List.singleton_append, renderParts_cons, renderParts_cons,
      renderParts_append, renderParts_literalParts, ← String.append_assoc]
    rfl
  | _ => rfl

/-- The text that is the same for all events is what the parts are rendered as for each. -/
theorem renderParts_of_fixedText? {parts : List Part} {text : String}
    (h : fixedText? parts = some text) (event : Event) : renderParts event parts = text := by
  induction parts generalizing text with
  | nil => exact Option.some.inj h
  | cons part parts ih =>
    obtain ⟨a, b, ha, hb, rfl⟩ := fixedText?_cons.1 h
    obtain rfl : part = .literal a := by
      cases part <;> simp_all [Part.fixedText?]
    rw [renderParts_cons, ih hb]
    rfl

/-- A layout that has a fixed text shows it, and this is what its parts are rendered as. -/
theorem getD_fixedText? (event : Event) (parts : List Part) :
    (fixedText? parts).getD (renderParts event parts) = renderParts event parts := by
  cases h : fixedText? parts with
  | none => rfl
  | some text => exact (renderParts_of_fixedText? h event).symm

/-! ## Layouts -/

theorem partsOf_plain {template : String} {s : List Char} (h : breakOn opening s = none) :
    partsOf template s = .ok (s, []) := by
  rw [partsOf]
  split
  · rfl
  · next hb => exact absurd (h.symm.trans hb) (by simp)

theorem partsOf_unclosed {template : String} {s before after : List Char}
    (hb : breakOn opening s = some (before, after)) (hc : breakOn closing after = none) :
    partsOf template s = .error (.unterminated template) := by
  rw [partsOf]
  split
  · next h => exact absurd (hb.symm.trans h) (by simp)
  · next before' after' h =>
    obtain ⟨rfl, rfl⟩ : before = before' ∧ after = after' := by simpa using hb.symm.trans h
    split
    · rfl
    · next h' => exact absurd (hc.symm.trans h') (by simp)

/-- The parts of a text that goes on after a placeholder. -/
theorem partsOf_placeholder {template : String} {s before after body rest : List Char}
    (hb : breakOn opening s = some (before, after))
    (hc : breakOn closing after = some (body, rest)) :
    partsOf template s = (do
      let part ← placeholder body
      let (text, parts) ← partsOf template rest
      .ok (before, part.followedBy text ++ parts)) := by
  rw [partsOf]
  split
  · next h => exact absurd (hb.symm.trans h) (by simp)
  · next before' after' h =>
    obtain ⟨rfl, rfl⟩ : before = before' ∧ after = after' := by simpa using hb.symm.trans h
    split
    · next h' => exact absurd (hc.symm.trans h') (by simp)
    · next body' rest' h' =>
      obtain ⟨rfl, rfl⟩ : body = body' ∧ rest = rest' := by simpa using hc.symm.trans h'
      rfl

/-- A layout is made of the parts of its template. -/
theorem eq_of_compile {template : String} {l : Layout} (h : compile template = .ok l) :
    ∃ parts, parse template = .ok parts ∧
      l = ⟨template, fixedText? parts,
        fun event => (fixedText? parts).getD (renderParts event parts)⟩ := by
  obtain ⟨parts, hparts, hl⟩ := Except.bind_eq_ok.1 h
  exact ⟨parts, hparts, (Except.ok.inj hl).symm⟩

/-- What is known of a compiled layout. -/
theorem compile_eq_ok {template : String} {l : Layout} (h : compile template = .ok l) :
    l.template = template ∧
      ∃ parts, parse template = .ok parts ∧ l.fixedText? = fixedText? parts := by
  obtain ⟨parts, hparts, rfl⟩ := eq_of_compile h
  exact ⟨rfl, parts, hparts, rfl⟩

/-- **A template is its own fixed text exactly if no placeholder is opened in it.** -/
theorem compile_fixedText?_self_iff {s : String} :
    (∃ l, compile s = .ok l ∧ l.fixedText? = some s) ↔ occursIn opening s.toList = false := by
  constructor
  · rintro ⟨l, hl, hfixed⟩
    obtain ⟨_, parts, hparts, hf⟩ := compile_eq_ok hl
    obtain ⟨⟨text, others⟩, hothers, h⟩ := Except.bind_eq_ok.1 hparts
    obtain rfl := Except.ok.inj h
    rw [← Bool.not_eq_true]
    intro ho
    exact absurd ((fixedText?_length hothers (hf ▸ hfixed)).2 ho) (Nat.lt_irrefl _)
  · intro ho
    have hparts : parse s = .ok (literalParts s.toList) := by
      rw [parse, partsOf_plain (breakOn_eq_none_iff.2 ho), Except.ok_bind]
      exact congrArg Except.ok (List.append_nil _)
    obtain ⟨l, hl, hfixed⟩ : ∃ l, compile s = .ok l ∧
        l.fixedText? = fixedText? (literalParts s.toList) := by
      rw [compile, hparts]
      exact ⟨_, rfl, rfl⟩
    refine ⟨l, hl, ?_⟩
    rw [hfixed, fixedText?_literalParts, String.ofList_toList]

end Template

end LogFilter
