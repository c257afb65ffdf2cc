import LogFilter.Proofs.Condition.MachineAnswers
import LogFilter.Proofs.Condition.Origins
import LogFilter.Proofs.Condition.Reproduction

/-!
# Nothing is read past the end

A tokenizer that is asked for more after the end of the condition answers with an error of its own.
The parser never asks for it. Most of its routines go past a token only after a look at its kind. A
number and a string are read without one, so whoever calls for them has looked. A program that does
all this is guarded (`Program.IsGuarded`), and every program of a routine is. After a token was read
or a call was answered, nothing is known of the current token any more, so what waits for it is
guarded for every token. Every step of the machine keeps this.

* `Parser.never_past_end`: a step of the machine only goes past tokens of the condition, and the
  error does not come up.
-/

namespace LogFilter.Parser

/-! ## Guarded programs -/

/-- Where a routine may be called. -/
def Routine.MayStartAt (t : Token) : Routine → Prop
  | number _ => t.kind = .number
  | string => t.kind = .string
  | _ => True

/-- A program that does not go past the end of the condition if `t` is the current token. -/
def Program.IsGuarded : Token → Program → Prop
  | _, answer _ => True
  | _, fail _ => True
  | t, look next => (next t).IsGuarded t
  | t, advance next => t.kind ≠ .endOfInput ∧ ∀ t', next.IsGuarded t'
  | t, call routine next => routine.MayStartAt t ∧ ∀ e t', (next e).IsGuarded t'

namespace Program

variable {t : Token}

theorem isGuarded_look {next : Token → Program} (h : (next t).IsGuarded t) :
    (look next).IsGuarded t := h

theorem isGuarded_advance {next : Program} (ht : t.kind ≠ .endOfInput)
    (h : ∀ t', next.IsGuarded t') : (advance next).IsGuarded t := ⟨ht, h⟩

theorem isGuarded_call {routine : Routine} {next : Expr → Program} (ht : routine.MayStartAt t)
    (h : ∀ e t', (next e).IsGuarded t') : (call routine next).IsGuarded t := ⟨ht, h⟩

theorem isGuarded_call_answer {routine : Routine} (ht : routine.MayStartAt t) :
    (call routine .answer).IsGuarded t := isGuarded_call ht fun _ _ => trivial

theorem isGuarded_expect {kind : TokenKind} {next : Program} (hkind : kind ≠ .endOfInput)
    (h : ∀ t', next.IsGuarded t') : (expect kind next).IsGuarded t := by
  refine isGuarded_look ?_
  split
  · next hk => exact isGuarded_advance (by rwa [hk]) h
  · trivial

theorem isGuarded_eatKeyword {next : String → Program} (h : ∀ word t', (next word).IsGuarded t') :
    (eatKeyword next).IsGuarded t := by
  refine isGuarded_look ?_
  split
  · next hk => exact isGuarded_advance (by simp [hk]) (h t.text)
  · trivial

theorem isGuarded_ofResult (result : Except ParseError Expr) : (ofResult result).IsGuarded t := by
  cases result <;> trivial

theorem isGuarded_levelName : levelName.IsGuarded t := by
  refine isGuarded_expect (by decide) fun _ => isGuarded_eatKeyword fun name _ => ?_
  cases Level.ofName? name <;> trivial

theorem isGuarded_close (env : Surroundings) (name : String) (arguments : List Expr) :
    (close env name arguments).IsGuarded t :=
  isGuarded_expect (by decide) fun _ => isGuarded_ofResult _

end Program

namespace Routine

open Parser.Program

variable (env : Surroundings) {t : Token}

theorem isGuarded_operand : (Routine.operand.program env).IsGuarded t := by
  refine isGuarded_look ?_
  cases hk : t.kind with
  | leftParen =>
    refine isGuarded_advance (by simp [hk]) fun _ => isGuarded_call trivial fun _ _ => ?_
    exact isGuarded_expect (by decide) fun _ => trivial
  | minus =>
    refine isGuarded_advance (by simp [hk]) fun digits => isGuarded_look ?_
    split
    · next hd => exact isGuarded_call_answer hd
    · trivial
  | number => exact isGuarded_call_answer hk
  | string => exact isGuarded_call_answer hk
  | keyword => exact isGuarded_call_answer trivial
  | _ => trivial

/-- A loop reads its operator. -/
theorem isGuarded_loop (inner : Routine) (more : Expr → Routine) {join : Expr → Expr → Expr}
    {sign : TokenKind} {name : String} (hsign : TokenKind.endOfInput ≠ sign)
    (hinner : ∀ t', inner.MayStartAt t') (hmore : ∀ e t', (more e).MayStartAt t') (left : Expr) :
    (Program.look fun t => if t.word.IsOperator sign name then
      .advance (.call inner fun right => .call (more (join left right)) .answer)
      else .answer left).IsGuarded t := by
  refine isGuarded_look ?_
  split
  · next hop =>
    refine isGuarded_advance (hop.kind_ne (by decide) hsign) fun _ => ?_
    exact isGuarded_call (hinner _) fun _ _ => isGuarded_call_answer (hmore _ _)
  · trivial

theorem isGuarded_not : (Routine.not.program env).IsGuarded t := by
  refine isGuarded_look ?_
  split
  · next hop =>
    refine isGuarded_advance (hop.kind_ne (by decide) (by decide)) fun _ => ?_
    exact isGuarded_call trivial fun _ _ => trivial
  · exact isGuarded_call_answer trivial

theorem isGuarded_relation : (Routine.relation.program env).IsGuarded t := by
  refine isGuarded_call trivial fun left sign => isGuarded_look ?_
  cases hrelation : sign.kind.relation? with
  | none => trivial
  | some r =>
    refine isGuarded_advance ?_ fun _ => isGuarded_call trivial fun _ _ => trivial
    intro hend
    rw [hend] at hrelation
    exact absurd hrelation (by simp [TokenKind.relation?])

theorem isGuarded_keyword : (Routine.keyword.program env).IsGuarded t := by
  refine isGuarded_look (isGuarded_eatKeyword fun word _ => ?_)
  split
  · trivial
  split
  · exact isGuarded_levelName
  refine isGuarded_look ?_
  split
  · next hopening =>
    exact isGuarded_advance (by simp [hopening]) fun _ => isGuarded_call_answer trivial
  · trivial

theorem isGuarded_arguments (name : String) (before : List Expr) :
    ((Routine.arguments name before).program env).IsGuarded t := by
  refine isGuarded_look ?_
  split
  · exact isGuarded_close env name before
  refine isGuarded_call trivial fun argument comma => isGuarded_look ?_
  split
  · next hcomma =>
    exact isGuarded_advance (by simp [hcomma]) fun _ => isGuarded_call_answer trivial
  · exact isGuarded_close env name _

/-- **Every routine looks before it reads**, where it may be called. -/
theorem program_isGuarded (routine : Routine) (h : routine.MayStartAt t) :
    (routine.program env).IsGuarded t := by
  cases routine with
  | or | and => exact isGuarded_call trivial fun _ _ => isGuarded_call_answer trivial
  | moreOr left =>
    exact isGuarded_loop .and .moreOr (by decide) (fun _ => trivial) (fun _ _ => trivial) left
  | moreAnd left =>
    exact isGuarded_loop .not .moreAnd (by decide) (fun _ => trivial) (fun _ _ => trivial) left
  | not => exact isGuarded_not env
  | relation => exact isGuarded_relation env
  | operand => exact isGuarded_operand env
  | number negative =>
    have hnumber : t.kind = .number := h
    exact isGuarded_look (isGuarded_advance (by simp [hnumber]) fun _ => isGuarded_ofResult _)
  | string =>
    have hstring : t.kind = .string := h
    exact isGuarded_look (isGuarded_advance (by simp [hstring]) fun _ => isGuarded_ofResult _)
  | keyword => exact isGuarded_keyword env
  | arguments name before => exact isGuarded_arguments env name before

end Routine

/-! ## Runs -/

namespace Machine

variable {env : Surroundings} {m m' : Machine}

/-- The program is guarded at the current token, and what the calls wait for is guarded anywhere. -/
structure IsGuarded (m : Machine) : Prop where
  program : m.program.IsGuarded m.tokenizer.current
  calls : ∀ c ∈ m.calls, ∀ e t, (c.next e).IsGuarded t

theorem isGuarded_start (t : Tokenizer) : (start t).IsGuarded :=
  ⟨Program.isGuarded_call_answer trivial, fun _ hc => absurd hc List.not_mem_nil⟩

/-- **A step keeps the guards.** -/
theorem IsGuarded.goes (h : m.IsGuarded) (hgoes : Goes env m m') : m'.IsGuarded := by
  obtain ⟨hprogram, hcalls⟩ := h
  cases hgoes with
  | answer =>
    obtain ⟨hlast, hcallers⟩ := List.forall_mem_cons.1 hcalls
    exact ⟨hlast _ _, hcallers⟩
  | look => exact ⟨hprogram, hcalls⟩
  | advance => exact ⟨hprogram.2 _, hcalls⟩
  | call =>
    obtain ⟨hstart, hnext⟩ := hprogram
    exact ⟨Routine.program_isGuarded env _ hstart, List.forall_mem_cons.2 ⟨hnext, hcalls⟩⟩

end Machine

/-- **Nothing is read past the end.** The error for this does not come up. The machine, which
answers as the parser does, only goes past tokens of the condition. -/
theorem never_past_end (env : Surroundings) (text : String) :
    Expr.parse env text ≠ .error .pastEndOfInput ∧
      Expr.parseEmbedded env text ≠ .error .pastEndOfInput ∧
        ∀ t, Tokenizer.ofText text = .ok t →
          (∀ n m next, (Machine.start t).run env n = .going m → m.program = .advance next →
            m.tokenizer.current.kind ≠ .endOfInput) ∧
          ∀ n answer, (Machine.start t).run env n = .done answer →
            Expr.parseEmbedded env text = answer >>= conclude := by
  have hparse : Expr.parse env text ≠ .error .pastEndOfInput := by
    intro h
    obtain ⟨ws, rest, _, harises⟩ := Expr.arises_of_parse h
    cases harises
  refine ⟨hparse, ?_, fun t ht => ⟨?_, ?_⟩⟩
  · intro h
    refine hparse ?_
    rw [Expr.parse_eq_map, h]
    rfl
  · intro n m next hrun hprogram
    have hguarded : m.IsGuarded :=
      Machine.run_keeps (fun _ _ hgoes h => h.goes hgoes) (Machine.isGuarded_start t) hrun
    have hadvance := hguarded.program
    rw [hprogram] at hadvance
    exact hadvance.1
  · intro n answer hrun
    exact Machine.parseEmbedded_eq_of_run ht hrun

/-- The machine reads the number `1` in its tenth step. Then it is at the end and answers. -/
theorem never_past_end_number :
    ∃ t m next answer, Tokenizer.ofText "1" = .ok t ∧
      (Machine.start t).run .standard 9 = .going m ∧ m.program = .advance next ∧
      m.tokenizer.current.kind ≠ .endOfInput ∧
      (Machine.start t).run .standard 30 = .done answer ∧
      Expr.parseEmbedded .standard "1" = answer >>= conclude := by
  obtain ⟨_, _, hruns⟩ := never_past_end .standard "1"
  obtain ⟨hadvance, hanswer⟩ := hruns ⟨⟨.number, "1", 0⟩, [], 1⟩ rfl
  exact ⟨_, _, _, _, rfl, rfl, rfl, hadvance 9 _ _ rfl rfl, rfl, hanswer 30 _ rfl⟩

end LogFilter.Parser
