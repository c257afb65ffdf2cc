import LogFilter.Proofs.Condition.Grammar

/-!
# The calls of a condition

The calls in an expression, with those in the arguments of a call before the call itself and those
on the left before those on the right. If words derive the expression, this is the order in which
the parentheses of the calls close among the words (`Derives.closeInOrder`). The parser asks for a
method behind the closing parenthesis of its call, so it asks for methods in this order, too.
-/

namespace LogFilter

/-- A call in an expression. -/
structure Call where
  name : String
  arguments : List Expr
  method : Method

namespace Expr

mutual

/-- The calls in an expression, each after those in its arguments. -/
def calls : Expr → List Call
  | call name arguments method => callsAll arguments ++ [⟨name, arguments, method⟩]
  | not a => calls a
  | and a b | or a b | relation _ a b => calls a ++ calls b
  | _ => []

/-- The calls in expressions, one expression after the other. -/
def callsAll : List Expr → List Call
  | [] => []
  | a :: as => calls a ++ callsAll as

end

end Expr

variable {env : Surroundings}

namespace Call

/-- The call as an expression. -/
def expr (c : Call) : Expr := .call c.name c.arguments c.method

/-- Some of the words are a call: its name, and its arguments in parentheses. The place, counted
from zero, is that of the closing one. -/
def ClosesAt (env : Surroundings) (ws : List Word) (place : Nat) (c : Call) : Prop :=
  ∃ (name opening closing : Word) (before inner after : List Word),
    ws = before ++ (name :: opening :: (inner ++ [closing])) ++ after ∧
      place = before.length + inner.length + 2 ∧ name.kind = .keyword ∧
      closing.kind = .rightParen ∧
      Derives env .operand (name :: opening :: (inner ++ [closing])) c.expr

variable {ws : List Word} {place : Nat} {c : Call}

theorem ClosesAt.lt_length (h : c.ClosesAt env ws place) : place < ws.length := by
  obtain ⟨name, opening, closing, before, inner, after, rfl, rfl, -⟩ := h
  simp only [List.length_append, List.length_cons, List.length_nil]
  omega

theorem ClosesAt.append (h : c.ClosesAt env ws place) (r : List Word) :
    c.ClosesAt env (ws ++ r) place := by
  obtain ⟨name, opening, closing, before, inner, after, rfl, hplace, hcall⟩ := h
  exact ⟨name, opening, closing, before, inner, after ++ r, List.append_assoc .., hplace, hcall⟩

theorem ClosesAt.behind (h : c.ClosesAt env ws place) (l : List Word) :
    c.ClosesAt env (l ++ ws) (l.length + place) := by
  obtain ⟨name, opening, closing, before, inner, after, rfl, rfl, hcall⟩ := h
  refine ⟨name, opening, closing, l ++ before, inner, after, ?_, ?_, hcall⟩
  · simp only [List.append_assoc]
  · rw [List.length_append]
    omega

end Call

/-- Calls are among the words, and their parentheses close in the order of the calls. -/
def CloseInOrder (env : Surroundings) (ws : List Word) (calls : List Call) : Prop :=
  ∃ marks : List (Nat × Call), marks.map Prod.snd = calls ∧
    (∀ m ∈ marks, m.2.ClosesAt env ws m.1) ∧ marks.Pairwise fun m n => m.1 < n.1

variable {l r ws : List Word} {cs ds : List Call}

theorem closeInOrder_nil (ws : List Word) : CloseInOrder env ws [] :=
  ⟨[], rfl, by simp, .nil⟩

/-- The calls of words that follow other words close after those of the others. -/
theorem CloseInOrder.append (hl : CloseInOrder env l cs) (hr : CloseInOrder env r ds) :
    CloseInOrder env (l ++ r) (cs ++ ds) := by
  obtain ⟨marks, rfl, hclose, hsorted⟩ := hl
  obtain ⟨marks', rfl, hclose', hsorted'⟩ := hr
  refine ⟨marks ++ marks'.map fun m => (l.length + m.1, m.2), ?_, ?_, ?_⟩
  · rw [List.map_append, List.map_map]
    rfl
  · intro m hm
    rcases List.mem_append.1 hm with hm | hm
    · exact (hclose m hm).append r
    · obtain ⟨n, hn, rfl⟩ := List.mem_map.1 hm
      exact (hclose' n hn).behind l
  · refine List.pairwise_append.2 ⟨hsorted, ?_, fun m hm n hn => ?_⟩
    · exact List.pairwise_map.2 (hsorted'.imp fun h => Nat.add_lt_add_left h _)
    · obtain ⟨n, -, rfl⟩ := List.mem_map.1 hn
      exact Nat.lt_add_right _ (hclose m hm).lt_length

theorem CloseInOrder.cons (h : CloseInOrder env ws cs) (w : Word) :
    CloseInOrder env (w :: ws) cs :=
  (closeInOrder_nil [w]).append h

/-- A call closes after those in its arguments. -/
theorem CloseInOrder.call {name opening closing : Word} {c : Call} (h : CloseInOrder env ws cs)
    (hn : name.kind = .keyword) (hc : closing.kind = .rightParen)
    (hd : Derives env .operand (name :: opening :: (ws ++ [closing])) c.expr) :
    CloseInOrder env (name :: opening :: (ws ++ [closing])) (cs ++ [c]) := by
  obtain ⟨marks, rfl, hclose, hsorted⟩ := (h.cons opening).cons name
  have hwhole : c.ClosesAt env (name :: opening :: (ws ++ [closing])) (ws.length + 2) :=
    ⟨name, opening, closing, [], ws, [], by simp, by simp, hn, hc, hd⟩
  refine ⟨marks ++ [(ws.length + 2, c)], by simp, fun m hm => ?_, ?_⟩
  · rcases List.mem_append.1 hm with hm | hm
    · exact (hclose m hm).append [closing]
    · obtain rfl := List.mem_singleton.1 hm
      exact hwhole
  · refine List.pairwise_append.2 ⟨hsorted, List.pairwise_singleton _ _, fun m hm n hn => ?_⟩
    obtain rfl := List.mem_singleton.1 hn
    exact (hclose m hm).lt_length

/-- The calls of arguments close in the order of the arguments. -/
theorem Separated.closeInOrder {arguments : List (List Word × Expr)} {ws : List Word}
    (hs : Separated (arguments.map Prod.fst) ws)
    (h : ∀ p ∈ arguments, CloseInOrder env p.1 p.2.calls) :
    CloseInOrder env ws (Expr.callsAll (arguments.map Prod.snd)) := by
  induction arguments generalizing ws with
  | nil => exact closeInOrder_nil ws
  | cons p arguments ih =>
    obtain ⟨hp, hps⟩ := List.forall_mem_cons.1 h
    rw [List.map_cons] at hs
    generalize hpieces : arguments.map Prod.fst = pieces at hs
    cases hs with
    | last =>
      obtain rfl : arguments = [] := List.map_eq_nil_iff.1 hpieces
      simpa [Expr.callsAll] using hp
    | @more comma _ rest _ _ hsep => exact hp.append ((ih (hpieces ▸ hsep) hps).cons comma)

/-- **The calls of the tree of a derivation close in their order among its words.** -/
theorem Derives.closeInOrder {production : Production} {e : Expr}
    (h : Derives env production ws e) : CloseInOrder env ws e.calls := by
  induction h with
  | orFirst _ ih | andFirst _ ih | notNone _ _ ih | relationOne _ ih => exact ih
  | @orMore sign _ _ _ _ _ _ _ ihl ihr | @andMore sign _ _ _ _ _ _ _ ihl ihr
  | @relation sign _ _ _ _ _ _ _ _ ihl ihr => exact ihl.append (ihr.cons sign)
  | @not sign _ _ _ _ ih => exact ih.cons sign
  | @parens opening closing _ _ _ _ _ ih =>
    have hclosed := ih.append (closeInOrder_nil [closing])
    rw [List.append_nil] at hclosed
    exact hclosed.cons opening
  | number | negative | level => exact closeInOrder_nil _
  | string _ _ hc => cases hc <;> exact closeInOrder_nil _
  | word _ hmem =>
    have hnone : ∀ p ∈ fixedWords, p.2.calls = [] := by simp [fixedWords, Expr.calls]
    rw [hnone _ hmem]
    exact closeInOrder_nil _
  | @call _ _ _ _ _ method hn hr ho hs hd hc hm ih =>
    exact (hs.closeInOrder ih).call (c := ⟨_, _, method⟩) hn hc (.call hn hr ho hs hd hc hm)

end LogFilter
