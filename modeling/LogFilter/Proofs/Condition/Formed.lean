import LogFilter.Proofs.Condition.Completeness
import LogFilter.Proofs.Condition.Spelling

/-!
# What the parser answers

The properties that hold at every node of a parsed expression: values have literals, strings were
compiled, and the name of a call is a keyword without a meaning of its own which resolves, for just
as many arguments, to the method of the call.

The induction over derivations is made once (`Derives.isMadeOf`). It carries any property of words
from the words that derive to those that a node shows: the string of a layout and the name of a
call.
-/

namespace LogFilter

variable {env : Surroundings}

/-! ## Values -/

/-- Values that literals of a condition stand for. A numeral is never read as a double that is no
number, and there are no dates and no exceptions. -/
def Value.IsWritten : Value → Prop
  | null | bool _ | int _ | string _ | level _ => True
  | float x => Decimal.isNaN x = false
  | date _ | exception _ => False

theorem Value.IsWritten.isLiteral {v : Value} (h : v.IsWritten) : v.IsLiteral := by
  cases v with
  | date d | exception e => exact h
  | _ => trivial

theorem Denotes.isWritten {negative : Bool} {text : List Char} {v : Value}
    (h : Denotes negative text v) : v.IsWritten := by
  cases h with
  | whole => trivial
  | point h =>
    obtain ⟨whole, fraction, -, -, -, -, rfl⟩ := h
    exact Decimal.isNaN_ofBits_bits negative _

/-! ## Nodes -/

/-- A node of an expression that derives from words with a property. -/
def Expr.IsMadeOf (env : Surroundings) (P : Word → Prop) : Expr → Prop
  | literal v => v.IsWritten
  | layout l =>
    ∃ template, P ⟨.string, quotedText template⟩ ∧ Compiles env.compile template (.layout l)
  | call name arguments method =>
    P (.keyword name) ∧ (∀ reserved ∈ reservedWords, ¬(Word.keyword name).Says reserved) ∧
      env.resolve name arguments.length = .ok (some method)
  | _ => True

/-- A node of an expression that was parsed. -/
def Expr.IsFormed (env : Surroundings) : Expr → Prop
  | literal v => v.IsLiteral
  | layout l => ∃ template, Compiles env.compile template (.layout l)
  | call name arguments method =>
    IsKeyword name.toList ∧ (∀ reserved ∈ reservedWords, ¬(Word.keyword name).Says reserved) ∧
      env.resolve name arguments.length = .ok (some method)
  | _ => True

/-- What is made of proper words is formed. -/
theorem Expr.IsMadeOf.isFormed {e : Expr} (h : e.IsMadeOf env Word.IsProper) : e.IsFormed env := by
  cases e with
  | literal v => exact h.isLiteral
  | layout l =>
    obtain ⟨template, -, hc⟩ := h
    exact ⟨template, hc⟩
  | call name arguments method => exact h
  | _ => trivial

/-- A piece of separated words is among them. -/
theorem Separated.mem {pieces : List (List Word)} {ws : List Word} (h : Separated pieces ws)
    {piece : List Word} (hp : piece ∈ pieces) : ∀ w ∈ piece, w ∈ ws := by
  induction h with
  | none => exact absurd hp (by simp)
  | last =>
    obtain rfl := List.mem_singleton.1 hp
    exact fun w hw => hw
  | more _ _ ih =>
    intro w hw
    rcases List.mem_cons.1 hp with rfl | hp
    · exact List.mem_append_left _ hw
    · exact List.mem_append_right _ (List.mem_cons_of_mem _ (ih hp w hw))

theorem Compiles.isMadeOf {P : Word → Prop} {template : String} {e : Expr}
    (h : Compiles env.compile template e) (hp : P ⟨.string, quotedText template⟩) :
    e.All (Expr.IsMadeOf env P) := by
  cases h with
  | constant hl hf => exact (Expr.all_leaf rfl).2 trivial
  | varying hl hf => exact (Expr.all_leaf rfl).2 ⟨template, hp, .varying hl hf⟩

/-- **What derives from words with a property is made of such words at every node.** -/
theorem Derives.isMadeOf {P : Word → Prop} {production : Production} {ws : List Word} {e : Expr}
    (h : Derives env production ws e) (hp : ∀ w ∈ ws, P w) : e.All (Expr.IsMadeOf env P) := by
  induction h with
  | orFirst _ ih | andFirst _ ih | notNone _ _ ih | relationOne _ ih => exact ih hp
  | orMore _ _ _ ihl ihr | andMore _ _ _ ihl ihr | relation _ _ _ ihl ihr =>
    refine (Expr.all_two rfl).2 ⟨trivial, ihl fun w hw => hp w ?_, ihr fun w hw => hp w ?_⟩
    · exact List.mem_append_left _ hw
    · exact List.mem_append_right _ (List.mem_cons_of_mem _ hw)
  | not _ _ ih =>
    refine (Expr.all_one rfl).2 ⟨trivial, ih fun w hw => hp w ?_⟩
    exact List.mem_cons_of_mem _ hw
  | parens _ _ _ ih =>
    exact ih fun w hw => hp w (List.mem_cons_of_mem _ (List.mem_append_left _ hw))
  | number _ hv | negative _ _ hv => exact (Expr.all_leaf rfl).2 hv.isWritten
  | @string w template _ hw hq hc =>
    have hword : (⟨.string, quotedText template⟩ : Word) = w := by rw [← hw, ← hq]
    exact hc.isMadeOf (hword ▸ hp w List.mem_cons_self)
  | word _ hmem =>
    simp only [fixedWords, List.mem_cons, Prod.mk.injEq, List.not_mem_nil, or_false] at hmem
    rcases hmem with ⟨_, rfl⟩ | ⟨_, rfl⟩ | ⟨_, rfl⟩ | ⟨_, rfl⟩ | ⟨_, rfl⟩ | ⟨_, rfl⟩ | ⟨_, rfl⟩ <;>
      exact (Expr.all_leaf rfl).2 trivial
  | level _ _ _ => exact (Expr.all_leaf rfl).2 trivial
  | @call name _ _ arguments _ method hn hr _ hs _ _ hm ih =>
    have hword : Word.keyword (String.ofList name.text) = name := by
      rw [Word.keyword, String.toList_ofList, ← hn]
    refine ⟨⟨?_, ?_, ?_⟩, ?_⟩
    · rw [hword]
      exact hp name List.mem_cons_self
    · rwa [hword]
    · rwa [List.length_map]
    · intro c hc
      obtain ⟨p, hpmem, rfl⟩ := List.mem_map.1 hc
      refine ih p hpmem fun w hw => hp w ?_
      have hmem := hs.mem (List.mem_map_of_mem hpmem) w hw
      exact List.mem_cons_of_mem _ (List.mem_cons_of_mem _ (List.mem_append_left _ hmem))

/-- The properties at every node of an expression that a text was parsed as. -/
theorem Expr.isFormed_of_parse {text : String} {e : Expr} (h : Expr.parse env text = .ok e) :
    e.All (IsFormed env) :=
  ((Expr.derives_of_parse h).2.isMadeOf (Tokens.areProper_ofChars 0 text.toList)).mono
    fun _ => IsMadeOf.isFormed

end LogFilter
