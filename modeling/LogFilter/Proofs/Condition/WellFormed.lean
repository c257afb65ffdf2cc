import LogFilter.Proofs.Condition.Embedding
import LogFilter.Proofs.Condition.Joining
import LogFilter.Proofs.Condition.Relevance

/-!
# Parsed conditions are well formed

What holds at every node of a condition that was parsed with the standard layouts, whatever methods
there are (`Expr.IsWellFormed`):

* literals are never dates, exceptions or doubles that are no numbers;
* layouts depend on the event, and their template, which is a string of the text, compiles to them;
* the name of a call is a keyword of the text, also when it is cut alone. It is none of the reserved
  words in any ASCII case, and the resolver answered the method of the call for it and for as many
  arguments as the call has.

Evaluation, canonical forms and reading them back rest on this. It is carried through the grammar by
`Derives.isMadeOf`, from the words of the text to the nodes of the tree.
-/

namespace LogFilter

/-- The layout of a template has the template from which it can be compiled again. -/
theorem Compiles.template_eq {template : String} {l : Layout}
    (h : Compiles Template.compile template (.layout l)) :
    l.template = template ∧ l.fixedText? = none ∧ Template.compile l.template = .ok l := by
  cases h with
  | varying hl hf =>
    obtain ⟨htemplate, -⟩ := Template.compile_eq_ok hl
    exact ⟨htemplate, hf, htemplate.symm ▸ hl⟩

namespace Expr

/-- A node of a condition with these words, for the methods of a resolver. -/
def IsWellFormed (resolve : Resolver) (words : List Word) : Expr → Prop
  | literal v => v.IsWritten
  | layout l =>
    (⟨.string, quotedText l.template⟩ : Word) ∈ words ∧ l.fixedText? = none ∧
      Template.compile l.template = .ok l
  | call name arguments method =>
    Word.keyword name ∈ words ∧ (Word.keyword name).StandsAlone ∧
      (∀ reserved ∈ reservedWords,
        Text.sameIgnoringAsciiCase name.toList reserved.toList = false) ∧
      resolve name arguments.length = .ok (some method)
  | _ => True

variable {resolve : Resolver} {text : String} {e : Expr}

/-- What is made of words of a text that stand alone is well formed. -/
theorem IsMadeOf.isWellFormed {words : List Word}
    (h : e.IsMadeOf ⟨resolve, Template.compile⟩ fun w => w ∈ words ∧ w.StandsAlone) :
    e.IsWellFormed resolve words := by
  cases e with
  | literal v => exact h
  | layout l =>
    obtain ⟨template, ⟨hword, -⟩, hcompiles⟩ := h
    obtain ⟨rfl, hfixed, hcompile⟩ := hcompiles.template_eq
    exact ⟨hword, hfixed, hcompile⟩
  | call name arguments method =>
    obtain ⟨⟨hword, halone⟩, hreserved, hresolve⟩ := h
    refine ⟨hword, halone, fun reserved hmem => ?_, hresolve⟩
    exact Bool.eq_false_iff.2 fun hsame => hreserved reserved hmem ⟨rfl, hsame⟩
  | _ => trivial

/-- **Every condition that the parser returns is well formed at every depth**, be it a whole text or
a condition inside of one. -/
theorem isWellFormed_of_parse
    (h : parse ⟨resolve, Template.compile⟩ text = .ok e ∨
      ∃ place, parseEmbedded ⟨resolve, Template.compile⟩ text = .ok (e, place)) :
    e.All (IsWellFormed resolve (Tokens.ofText text).words) := by
  have hparse : parse ⟨resolve, Template.compile⟩ text = .ok e := by
    rcases h with h | ⟨place, h⟩
    · exact h
    · rw [parse_eq_map, h]
      rfl
  have hwords : ∀ w ∈ (Tokens.ofText text).words,
      w ∈ (Tokens.ofText text).words ∧ w.StandsAlone := by
    intro w hw
    obtain ⟨t, ht, rfl⟩ := List.mem_map.1 hw
    exact ⟨hw, Tokens.standsAlone_of_mem ht⟩
  exact ((derives_of_parse hparse).2.isMadeOf hwords).mono fun _ => IsMadeOf.isWellFormed

/-- The condition that the property `user` is longer than one and a half. -/
def longUser : Expr :=
  .relation .greater (.call "length" [.layout userLayout] Method.length)
    (.literal (.float (Decimal.ofBits false 0x3FF8000000000000)))

/-- It is `(length('${event-property:user}') > 1.5)`, with a layout inside of a call. Its parsed
form is well formed for the standard methods. -/
theorem isWellFormed_of_parse_longUser :
    ∃ e, parse .standard longUser.text = .ok e ∧ longUser.same e = true ∧
      e.All (IsWellFormed Registry.standard.resolve (Tokens.ofText longUser.text).words) := by
  have hname : (Tokens.ofText "length").words = [.keyword "length"] := by
    have hbegins := begins_keyword_of_delimited (s := "length") (by decide +kernel) delimited_nil
    rw [List.append_nil] at hbegins
    exact (begins_nil hbegins).2
  have hfloat : Decimal.isFinite (Decimal.ofBits false 0x3FF8000000000000) = true := by
    decide +kernel
  have hprintable : longUser.All (IsPrintable Registry.standard.resolve) := by
    rw [longUser, all_two rfl, all_one rfl]
    exact ⟨trivial, ⟨⟨hname, by decide +kernel, _, rfl⟩,
      (all_leaf rfl).2 ⟨_, compile_userLayout, rfl⟩⟩, (all_leaf rfl).2 hfloat⟩
  obtain ⟨e, hparse, hsame⟩ := parse_text hprintable
  exact ⟨e, hparse, hsame, isWellFormed_of_parse (Or.inl hparse)⟩

end Expr

end LogFilter
