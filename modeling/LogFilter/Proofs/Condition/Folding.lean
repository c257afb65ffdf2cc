import LogFilter.Condition.Eval
import LogFilter.Proofs.Condition.Reproduction
import LogFilter.Proofs.Layout.Pieces

/-!
# Folding of string literals

A string in quotes is a template. If each of its placeholders is one of literal text, then the
parser does not keep the template: it makes the text once and answers a plain literal. This changes
no value, whatever the event is, and such a template is told from others by the names in its
placeholders (`Expr.parse_template`).

That the text made once is the right one is known of the parts of a template,
`Template.renderParts_of_fixedText?`, and when there is one is known of its pieces,
`Template.Pieces.isSome_fixedText?_iff`.
-/

namespace LogFilter

namespace Template

/-! ## Templates of literal text -/

/-- Parts have a fixed text if each of them has one. -/
theorem isSome_fixedText? (parts : List Part) :
    (fixedText? parts).isSome = parts.all fun part => part.fixedText?.isSome := by
  induction parts with
  | nil => rfl
  | cons part parts ih =>
    rw [List.all_cons, ← ih, fixedText?, fixedText?, List.mapM_cons]
    cases part.fixedText? with
    | none => rfl
    | some text => cases parts.mapM Part.fixedText? <;> rfl

theorem isSome_fixedText?_literalParts (s : List Char) :
    (fixedText? (literalParts s)).isSome = true := by
  rw [fixedText?_literalParts, Option.isSome_some]

/-- Pieces have a fixed text exactly if every placeholder is one of literal text. -/
theorem Pieces.isSome_fixedText?_iff {pieces : Pieces} {template : String} {text : List Char}
    {parts : List Part} (h : pieces.parts template = .ok (text, parts)) :
    (fixedText? (literalParts text ++ parts)).isSome = true ↔
      ∀ body ∈ pieces.bodies, ∃ options, Calls "literal" body options := by
  induction pieces generalizing text parts with
  | last s =>
    obtain ⟨rfl, rfl⟩ := Prod.mk.inj (Except.ok.inj h)
    rw [List.append_nil]
    exact iff_of_true (isSome_fixedText?_literalParts s) (by simp [bodies])
  | unclosed s body => exact absurd h (by simp [Pieces.parts])
  | more s body rest ih =>
    obtain ⟨part, hpart, h⟩ := Except.bind_eq_ok.1 h
    obtain ⟨⟨next, others⟩, hothers, h⟩ := Except.bind_eq_ok.1 h
    obtain ⟨rfl, rfl⟩ := Prod.mk.inj (Except.ok.inj h)
    have htext := isSome_fixedText?_literalParts s
    rw [isSome_fixedText?] at htext
    rw [isSome_fixedText?, List.all_append, htext, Bool.true_and, ← isSome_fixedText?,
      fixedText?_followedBy_append, isSome_fixedText?, List.all_cons, Bool.and_eq_true,
      ← isSome_fixedText?, ih hothers, fixedText?_isSome_iff hpart, bodies, List.forall_mem_cons]

/-- Whatever way a layout takes, it shows its parts one after the other. -/
theorem exists_parts_of_compile {s : String} {l : Layout} (h : compile s = .ok l) :
    ∃ parts, parse s = .ok parts ∧ l.fixedText? = fixedText? parts ∧
      ∀ event, l.render event = renderParts event parts := by
  obtain ⟨parts, hparts, rfl⟩ := eq_of_compile h
  exact ⟨parts, hparts, rfl, fun event => getD_fixedText? event parts⟩

theorem render_of_fixedText? {s text : String} {l : Layout} (h : compile s = .ok l)
    (hf : l.fixedText? = some text) (event : Event) : l.render event = text := by
  obtain ⟨parts, -, hfixed, hrender⟩ := exists_parts_of_compile h
  rw [hrender, renderParts_of_fixedText? (hfixed ▸ hf)]

end Template

/-! ## Conditions -/

namespace Expr

open Template

variable {resolve : Resolver} {s : String} {l : Layout}

/-- A template stands for a literal exactly if its layout has a fixed text, and for the value of the
layout in any case. -/
theorem exists_compiles (h : compile s = .ok l) :
    ∃ e, Compiles compile s e ∧ (∀ text, e = literal (.string text) ↔ l.fixedText? = some text) ∧
      ∀ event, evaluate event e = .ok (.string (l.render event)) := by
  cases hf : l.fixedText? with
  | none => exact ⟨layout l, .varying h hf, by simp, fun event => by rw [evaluate]⟩
  | some text =>
    refine ⟨literal (.string text), .constant h hf, by simp, fun event => ?_⟩
    rw [evaluate, render_of_fixedText? h hf]

/-- **Folding keeps the meaning of strings.** A template in quotes is parsed as an expression whose
value is what the parts of the template are rendered as. It is a plain literal exactly if every
placeholder is one of literal text, and then the text that was made once is the one that the parts
make for each event. -/
theorem parse_template (h : compile s = .ok l) :
    ∃ parts e, Template.parse s = .ok parts ∧
      Expr.parse ⟨resolve, compile⟩ (String.ofList (quotedText s)) = .ok e ∧
      (∀ event, evaluate event e = .ok (.string (renderParts event parts))) ∧
      (∃ pieces : Pieces, pieces.IsProper ∧ pieces.text = s.toList) ∧
      (∀ pieces : Pieces, pieces.IsProper → pieces.text = s.toList →
        ((∃ text, e = literal (.string text)) ↔
          ∀ body ∈ pieces.bodies, ∃ options, Calls "literal" body options)) ∧
      ∀ text, e = literal (.string text) → l.fixedText? = some text ∧
        ∀ event, l.render event = text ∧ renderParts event parts = text := by
  obtain ⟨parts, hparts, hfixed, hrender⟩ := exists_parts_of_compile h
  obtain ⟨e, hcompiles, hliteral, hvalue⟩ := exists_compiles h
  refine ⟨parts, e, hparts, parse_quotedText hcompiles, ?_, Pieces.exists_of_text s.toList, ?_, ?_⟩
  · intro event
    rw [hvalue, hrender]
  · intro pieces hproper htext
    rw [Template.parse, ← htext, Pieces.partsOf_text hproper] at hparts
    obtain ⟨⟨text, others⟩, hothers, hparts⟩ := Except.bind_eq_ok.1 hparts
    obtain rfl := Except.ok.inj hparts
    simp only [hliteral, hfixed]
    rw [← Option.isSome_iff_exists, Pieces.isSome_fixedText?_iff hothers]
  · intro text he
    have hf := (hliteral text).1 he
    refine ⟨hf, fun event => ⟨render_of_fixedText? h hf event, ?_⟩⟩
    exact renderParts_of_fixedText? (hfixed ▸ hf) event

/-- A text with a quote before a placeholder of literal text. -/
theorem parse_template_quote :
    ∃ e, Expr.parse .standard "'it''s $\x7bliteral:text=fine\x7d'" =
        .ok e ∧
      (∀ event, evaluate event e = .ok (.string "it's fine")) ∧
      e = literal (.string "it's fine") := by
  let pieces : Pieces := .more "it's ".toList "literal:text=fine".toList (.last [])
  have hproper : pieces.IsProper := by
    simp only [pieces, Pieces.IsProper]
    decide +kernel
  have hparse : Template.parse "it's $\x7bliteral:text=fine\x7d" =
      .ok [.literal "it's ", .literal "fine"] := by
    have hparts := Pieces.partsOf_text hproper "it's $\x7bliteral:text=fine\x7d"
    rw [Template.parse]
    exact congrArg (· >>= _) hparts
  obtain ⟨l, hl, hf⟩ : ∃ l, compile "it's $\x7bliteral:text=fine\x7d" = .ok l ∧
      l.fixedText? = some "it's fine" := by
    rw [compile, hparse]
    exact ⟨_, rfl, rfl⟩
  have hname : ':' ∉ "literal".toList := by decide
  have hcalls : Calls "literal" "literal:text=fine".toList (some "text=fine".toList) :=
    ⟨"literal".toList, .withOptions hname, rfl⟩
  obtain ⟨parts, e, hparts, he, hvalue, -, hiff, hfast⟩ :=
    @parse_template Registry.standard.resolve _ _ hl
  obtain ⟨text, htext⟩ := (hiff pieces hproper rfl).2 (List.forall_mem_singleton.2 ⟨_, hcalls⟩)
  obtain ⟨hfixed, hrender⟩ := hfast text htext
  obtain rfl : "it's fine" = text := Option.some.inj (hf.symm.trans hfixed)
  refine ⟨e, he, fun event => ?_, htext⟩
  rw [hvalue, (hrender event).2]

end Expr

end LogFilter
