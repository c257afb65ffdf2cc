import LogFilter.Proofs.Condition.Canonical
import LogFilter.Proofs.Condition.Lookahead

/-!
# Conditions inside of other texts

A condition in a template ends before a closing brace or a colon, and the place where it ends is
answered with its tree. Both depend only on the text before that place
(`Expr.parseEmbedded_of_part`). The parser reads nothing but tokens, so this is what
`Tokens.exists_part` says of them.
-/

namespace LogFilter

open Text Tokens

variable {env : Surroundings} {text : String} {e : Expr} {k : Nat}

/-- The condition in a text with the place where it ends, on answers. -/
theorem Expr.parseEmbedded_eq (env : Surroundings) (text : String) :
    Expr.parseEmbedded env text = (do
      let p ← Parser.answer (Parser.parseOr env (ofText text))
      let t ← p.2.head
      if t.kind = .endOfInput then .ok (p.1, t.position)
      else .error (.unexpectedToken t.text t.position)) := by
  unfold Expr.parseEmbedded
  cases Parser.parseOr env (ofText text) <;> rfl

/-- A condition is parsed in the same way, but for the place where it ends. -/
theorem Expr.parse_eq_map (env : Surroundings) (text : String) :
    Expr.parse env text = (Expr.parseEmbedded env text).map Prod.fst := by
  rw [Expr.parse_eq, Expr.parseEmbedded_eq]
  cases Parser.answer (Parser.parseOr env (ofText text)) with
  | error _ => rfl
  | ok p =>
    cases hhead : p.2.head with
    | error _ => simp only [Bind.bind, Except.bind, hhead, Except.map]
    | ok t =>
      simp only [Bind.bind, Except.bind, hhead]
      split <;> rfl

/-- The place where a condition ends is that of the end of its tokens. -/
theorem Expr.ending_of_parseEmbedded (h : Expr.parseEmbedded env text = .ok (e, k)) :
    (ofText text).ending = .ok (endToken k) := by
  simp only [Expr.parseEmbedded_eq, Except.bind_eq_ok] at h
  obtain ⟨⟨e', rest⟩, hp, t, ht, h⟩ := h
  split at h
  · next hend =>
    obtain ⟨rfl, rfl⟩ := Prod.ext_iff.1 (Except.ok.inj h)
    obtain ⟨ws, hws, _⟩ := Parser.takes_of_end hp ht hend
    exact hws.ending_eq
  · exact absurd h (by simp)

/-- Texts with the same tokens are parsed in the same way. -/
theorem Expr.parseEmbedded_congr {text' : String} (h : ofText text' = ofText text) :
    Expr.parseEmbedded env text' = Expr.parseEmbedded env text := by
  rw [Expr.parseEmbedded_eq, Expr.parseEmbedded_eq, h]

/-- **What follows a condition has no influence on it.** A text is parsed as an embedded condition
exactly if it is parsed as a condition, with the same tree or the same error. The place that is
answered with the tree splits the text before a character that ends the condition or at its end. The
part before it is parsed as the same condition, and so is every text that goes on with such a
character after this part. -/
theorem Expr.parseEmbedded_of_part (env : Surroundings) (text : String) :
    Expr.parse env text = (Expr.parseEmbedded env text).map Prod.fst ∧
      ∀ e k, Expr.parseEmbedded env text = .ok (e, k) →
        ∃ part after : String, text = part ++ after ∧ part.utf8ByteSize = k ∧
          Ended after.toList ∧ Expr.parse env part = .ok e ∧
          ∀ rest : String, Ended rest.toList →
            Expr.parseEmbedded env (part ++ rest) = .ok (e, k) := by
  refine ⟨Expr.parse_eq_map env text, fun e k h => ?_⟩
  obtain ⟨part, after, htext, hk, hafter, hsame⟩ := exists_part (Expr.ending_of_parseEmbedded h)
  have hparse : ∀ rest : String, Ended rest.toList →
      Expr.parseEmbedded env (String.ofList part ++ rest) = .ok (e, k) := by
    intro rest hr
    refine (Expr.parseEmbedded_congr ?_).trans h
    rw [ofText, String.toList_append, String.toList_ofList]
    exact hsame rest.toList hr
  refine ⟨String.ofList part, String.ofList after, ?_, ?_, ?_, ?_, hparse⟩
  · rw [← String.ofList_append, ← htext, String.ofList_toList]
  · rw [← utf8Length_eq_utf8ByteSize, ← hk, Nat.zero_add]
  · rwa [String.toList_ofList]
  · have hpart := hparse "" ended_nil
    rw [String.append_empty] at hpart
    rw [Expr.parse_eq_map, hpart]
    rfl

/-- In `'\x7d': it` the condition ends before the colon: the brace in its string does not count. -/
theorem Expr.parseEmbedded_of_part_quoted :
    Expr.parseEmbedded .standard "'\x7d': it" =
        .ok (.literal (.string "\x7d"), 3) ∧
      ∃ part after : String, "'\x7d': it" = part ++ after ∧ part.utf8ByteSize = 3 ∧
        ∀ rest : String, Ended rest.toList →
          Expr.parseEmbedded .standard (part ++ rest) =
            .ok (.literal (.string "\x7d"), 3) := by
  have htokens : ofText "'\x7d': it" = .token ⟨.string, "'\x7d'", 0⟩ (.finish 3) := by
    have hquoted : ofChars 0 ([] ++ ("'\x7d'".toList ++ ": it".toList)) = _ :=
      ofChars_token (by simp) (fun c hc => by
        obtain rfl : '\'' = c := by simpa using hc
        decide) rfl
    have hcolon : ofChars 3 ([] ++ ": it".toList) = _ :=
      ofChars_finish (by simp) (ended_cons.2 (by decide))
    exact hquoted.trans (congrArg _ hcolon)
  have hwords : (ofText "'\x7d': it").words = [⟨.string, quotedText "\x7d"⟩] := by
    rw [htokens]
    rfl
  have hparse : Expr.parse .standard "'\x7d': it" =
      .ok (.literal (.string "\x7d")) := by
    refine Expr.parse_of_derives ?_ ?_
    · rw [htokens]
      exact isComplete_token.2 (isComplete_finish 3)
    · rw [hwords]
      exact derives_quoted (Expr.compiles_self_iff.2 (by decide +kernel))
  rw [Expr.parse_eq_map] at hparse
  obtain ⟨⟨e, k⟩, hembedded, rfl⟩ := Except.map_eq_ok.1 hparse
  have hk := Expr.ending_of_parseEmbedded hembedded
  obtain rfl : 3 = k := by simpa [htokens, ending, endToken] using hk
  obtain ⟨part, after, htext, hsize, _, _, hrest⟩ :=
    (Expr.parseEmbedded_of_part _ _).2 _ _ hembedded
  exact ⟨hembedded, part, after, htext, hsize, hrest⟩

end LogFilter
