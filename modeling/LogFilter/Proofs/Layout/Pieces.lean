import LogFilter.Proofs.Layout.Placeholder

/-!
# Templates in pieces

A template is text with placeholders in it, and at its end a placeholder may be open. Every text is
such a template (`Pieces.exists_of_text`), and it is taken apart into the pieces that it was put
together from, if no text opens a placeholder and no placeholder is closed before its end
(`Pieces.partsOf_text`).

So what becomes of a template is told by its pieces: the error of the first placeholder that has
one, then that of a placeholder which is open, and else a layout that shows each text as it is and
each placeholder as what it stands for (`compile_text`).
-/

namespace LogFilter.Template

open Text

/-- A template taken apart: text, with a placeholder and more pieces after it or with a placeholder
that is open. -/
inductive Pieces
  | last (text : List Char)
  | unclosed (text body : List Char)
  | more (text body : List Char) (rest : Pieces)

namespace Pieces

/-- The template that is put together from the pieces. -/
def text : Pieces → List Char
  | last text => text
  | unclosed text body => text ++ opening ++ body
  | more text body rest => text ++ opening ++ body ++ closing ++ rest.text

/-- What stands between the braces of the placeholders that are closed. -/
def bodies : Pieces → List (List Char)
  | last _ | unclosed _ _ => []
  | more _ body rest => body :: rest.bodies

/-- Whether all placeholders are closed. -/
def isClosed : Pieces → Bool
  | last _ => true
  | unclosed _ _ => false
  | more _ _ rest => rest.isClosed

/-- The pieces are what they seem to be: no text opens a placeholder and nothing within one closes
it. -/
def IsProper : Pieces → Prop
  | last text => occursIn opening text = false
  | unclosed text body => occursIn opening text = false ∧ '\x7d' ∉ body
  | more text body rest => occursIn opening text = false ∧ '\x7d' ∉ body ∧ rest.IsProper

/-- Pieces stand for their texts, with what each placeholder stands for between them. -/
inductive StandFor : Pieces → (Event → String) → Prop
  | last (text : List Char) : StandFor (last text) fun _ => String.ofList text
  | more (text : List Char) {body : List Char} {rest : Pieces} {value shown : Event → String}
      (h : StandsFor body value) (hrest : StandFor rest shown) :
      StandFor (more text body rest) fun event => String.ofList text ++ value event ++ shown event

theorem StandFor.unique {pieces : Pieces} {shown shown' : Event → String}
    (h : pieces.StandFor shown) (h' : pieces.StandFor shown') : shown = shown' := by
  induction h generalizing shown' with
  | last text =>
    cases h'
    rfl
  | more text hvalue _ ih =>
    cases h' with
    | more _ hvalue' hrest' => rw [hvalue.unique hvalue', ih hrest']

/-- The first text of pieces and the parts after it, or the first error. -/
def parts (template : String) : Pieces → Except LayoutError (List Char × List Part)
  | last text => .ok (text, [])
  | unclosed _ _ => .error (.unterminated template)
  | more text body rest => do
    let part ← placeholder body
    let (next, parts) ← rest.parts template
    .ok (text, part.followedBy next ++ parts)

/-! ## Taking apart -/

theorem breakOn_opening {text : List Char} (h : occursIn opening text = false)
    (after : List Char) : breakOn opening (text ++ opening ++ after) = some (text, after) := by
  rw [List.append_assoc]
  exact breakOn_pair (by decide) h after

theorem breakOn_closing {body : List Char} (h : '\x7d' ∉ body) (after : List Char) :
    breakOn closing (body ++ closing ++ after) = some (body, after) := by
  rw [List.append_assoc]
  exact breakOn_singleton h after

/-- **A template is taken apart into its pieces.** -/
theorem partsOf_text {pieces : Pieces} (h : pieces.IsProper) (template : String) :
    partsOf template pieces.text = pieces.parts template := by
  induction pieces with
  | last text => exact partsOf_plain (breakOn_eq_none_iff.2 h)
  | unclosed text body =>
    obtain ⟨htext, hbody⟩ := h
    have hc : breakOn closing body = none :=
      breakOn_eq_none_iff.2 (occursIn_singleton_iff.2 hbody)
    exact partsOf_unclosed (breakOn_opening htext body) hc
  | more text body rest ih =>
    obtain ⟨htext, hbody, hrest⟩ := h
    have hb : breakOn opening (more text body rest).text =
        some (text, body ++ closing ++ rest.text) := by
      rw [Pieces.text, List.append_assoc, List.append_assoc, ← List.append_assoc body]
      exact breakOn_opening htext _
    rw [partsOf_placeholder hb (breakOn_closing hbody rest.text), ih hrest]
    rfl

/-- **Every text is put together from pieces.** -/
theorem exists_of_text (s : List Char) : ∃ pieces : Pieces, pieces.IsProper ∧ pieces.text = s := by
  fun_induction partsOf "" s with
  | case1 s hb => exact ⟨.last s, breakOn_eq_none_iff.1 hb, rfl⟩
  | case2 s before after hb hc =>
    refine ⟨.unclosed before after, ⟨occursIn_of_breakOn (by decide) hb, ?_⟩, ?_⟩
    · exact occursIn_singleton_iff.1 (breakOn_eq_none_iff.1 hc)
    · exact (eq_of_breakOn hb).symm
  | case3 s before after hb body rest hc ih =>
    obtain ⟨pieces, hproper, htext⟩ := ih
    refine ⟨.more before body pieces, ⟨occursIn_of_breakOn (by decide) hb, ?_, hproper⟩, ?_⟩
    · exact occursIn_singleton_iff.1 (occursIn_of_breakOn (by decide) hc)
    · rw [eq_of_breakOn hb, eq_of_breakOn hc, text, htext]
      simp only [List.append_assoc]

/-! ## Errors -/

/-- The first placeholder that is refused gives the error. -/
theorem parts_refused {pieces : Pieces} {template : String} {before after : List (List Char)}
    {body : List Char} {cause : LayoutError} (hbodies : pieces.bodies = before ++ body :: after)
    (hbefore : ∀ other ∈ before, ∃ part, placeholder other = .ok part)
    (h : placeholder body = .error cause) : pieces.parts template = .error cause := by
  induction pieces generalizing before with
  | last text => exact absurd hbodies (by simp [bodies])
  | unclosed text other => exact absurd hbodies (by simp [bodies])
  | more text first rest ih =>
    cases before with
    | nil =>
      obtain ⟨rfl, -⟩ := List.cons.inj hbodies
      rw [parts, h]
      rfl
    | cons other before =>
      obtain ⟨rfl, hrest⟩ := List.cons.inj hbodies
      obtain ⟨⟨part, hpart⟩, hbefore⟩ := List.forall_mem_cons.1 hbefore
      rw [parts, hpart, ih hrest hbefore]
      rfl

variable {pieces : Pieces} (hbodies : ∀ body ∈ pieces.bodies, ∃ part, placeholder body = .ok part)

include hbodies

theorem parts_unclosed (h : pieces.isClosed = false) (template : String) :
    pieces.parts template = .error (.unterminated template) := by
  induction pieces with
  | last text => exact absurd h (by simp [isClosed])
  | unclosed text body => rfl
  | more text body rest ih =>
    obtain ⟨⟨part, hpart⟩, hbodies⟩ := List.forall_mem_cons.1 hbodies
    rw [parts, hpart, ih hbodies h]
    rfl

/-! ## Layouts -/

/-- Closed pieces of which no placeholder is refused have parts that are rendered as the pieces
stand. -/
theorem exists_parts (h : pieces.isClosed = true) (template : String) :
    ∃ text parts, pieces.parts template = .ok (text, parts) ∧
      pieces.StandFor fun event => renderParts event (literalParts text ++ parts) := by
  induction pieces with
  | last text =>
    refine ⟨_, _, rfl, ?_⟩
    simp only [List.append_nil, renderParts_literalParts]
    exact .last text
  | unclosed text body => exact absurd h (by simp [isClosed])
  | more text body rest ih =>
    obtain ⟨⟨part, hpart⟩, hbodies⟩ := List.forall_mem_cons.1 hbodies
    obtain ⟨next, others, hothers, hstand⟩ := ih hbodies h
    refine ⟨_, _, by rw [parts, hpart, hothers]; rfl, ?_⟩
    simp only [renderParts_append _ (literalParts text), renderParts_literalParts,
      renderParts_followedBy_append, renderParts_cons, ← String.append_assoc]
    exact .more text (standsFor_of_placeholder hpart) hstand

end Pieces

/-- **What becomes of a template, by its pieces.** The first placeholder that is refused gives the
error; else a placeholder that is open does; else there is a layout that shows for every event what
the pieces stand for. -/
theorem compile_text {pieces : Pieces} (h : pieces.IsProper) :
    let template := String.ofList pieces.text
    (∀ before body after cause, pieces.bodies = before ++ body :: after →
      (∀ other ∈ before, ∃ part, placeholder other = .ok part) →
      placeholder body = .error cause → compile template = .error cause) ∧
    ((∀ body ∈ pieces.bodies, ∃ part, placeholder body = .ok part) →
      (pieces.isClosed = false → compile template = .error (.unterminated template)) ∧
      (pieces.isClosed = true →
        ∃ l, compile template = .ok l ∧ pieces.StandFor l.render)) := by
  intro template
  have hparse : partsOf template template.toList = pieces.parts template := by
    rw [String.toList_ofList, Pieces.partsOf_text h]
  refine ⟨?_, fun hbodies => ⟨?_, ?_⟩⟩
  · intro before body after cause heq hbefore hbody
    rw [compile, parse, hparse, Pieces.parts_refused heq hbefore hbody]
    rfl
  · intro hopen
    rw [compile, parse, hparse, Pieces.parts_unclosed hbodies hopen]
    rfl
  · intro hclosed
    obtain ⟨text, parts, hparts, hstand⟩ := Pieces.exists_parts hbodies hclosed template
    refine ⟨_, by rw [compile, parse, hparse, hparts]; rfl, ?_⟩
    simp only [getD_fixedText?]
    exact hstand

/-- Two placeholders that stand for something, an unknown renderer before a placeholder that is
open, and such a placeholder after one that stands for something. -/
theorem compile_text_level :
    (∃ l, compile "$\x7blevel\x7d: $\x7bmessage\x7d" = .ok l ∧
      ∀ event, l.render event = event.level.name ++ ": " ++ event.message) ∧
    compile "$\x7bnope\x7d$\x7blevel" = .error (.unknownRenderer "nope") ∧
    compile "$\x7blevel\x7d$\x7bnope" = .error (.unterminated "$\x7blevel\x7d$\x7bnope") := by
  have hlevel : placeholder "level".toList = .ok .level := rfl
  have hmessage : placeholder "message".toList = .ok .message := rfl
  refine ⟨?_, ?_, ?_⟩
  · let pieces : Pieces := .more [] "level".toList (.more ": ".toList "message".toList (.last []))
    have hproper : pieces.IsProper := by
      simp only [pieces, Pieces.IsProper]
      decide +kernel
    have hbodies : ∀ body ∈ pieces.bodies, ∃ part, placeholder body = .ok part :=
      List.forall_mem_cons.2 ⟨⟨_, hlevel⟩, List.forall_mem_singleton.2 ⟨_, hmessage⟩⟩
    obtain ⟨l, hl, hstand⟩ := ((compile_text hproper).2 hbodies).2 rfl
    have hshown : pieces.StandFor fun event =>
        String.ofList [] ++ event.level.name ++ (": " ++ event.message ++ String.ofList []) :=
      .more _ (standsFor_of_placeholder hlevel)
        (.more _ (standsFor_of_placeholder hmessage) (.last _))
    refine ⟨l, hl, fun event => ?_⟩
    rw [hstand.unique hshown]
    simp [String.append_assoc]
  · let pieces : Pieces := .more [] "nope".toList (.unclosed [] "level".toList)
    have hproper : pieces.IsProper := by
      simp only [pieces, Pieces.IsProper]
      decide +kernel
    exact (compile_text hproper).1 [] _ [] _ rfl (by simp) rfl
  · let pieces : Pieces := .more [] "level".toList (.unclosed [] "nope".toList)
    have hproper : pieces.IsProper := by
      simp only [pieces, Pieces.IsProper]
      decide +kernel
    exact ((compile_text hproper).2 (List.forall_mem_singleton.2 ⟨_, hlevel⟩)).1 rfl

end LogFilter.Template
