import LogFilter.Event.Basic
import LogFilter.Proofs.Text.Cuts

/-!
# Exceptions as texts

The text of an exception is its kind and its message with a colon and a space between them. The
message can have the same two characters in it, and the kind can have colons. A text is read at the
first place where a space follows a colon, so an exception is read back from its text if and only if
its kind has characters and no space is among them (`IsNamed`).

Every text is read as some exception: as the one with such a kind whose text it is, else as the
message of an exception of the default kind.
-/

namespace LogFilter.ExceptionInfo

open Text

variable {e : ExceptionInfo} {s : String}

/-- The kind has characters, and no space is among them. -/
def IsNamed (e : ExceptionInfo) : Prop := e.kind ≠ "" ∧ ' ' ∉ e.kind.toList

/-- The exception that has a whole text for its message. -/
def ofMessage (s : String) : ExceptionInfo := ⟨defaultKind, s⟩

theorem isNamed_ofMessage (s : String) : (ofMessage s).IsNamed := by
  have hkind : defaultKind ≠ "" ∧ ' ' ∉ defaultKind.toList := by decide
  exact hkind

theorem toList_text (e : ExceptionInfo) :
    e.text.toList = e.kind.toList ++ ':' :: ' ' :: e.message.toList := by
  rw [text, String.toList_append, String.toList_append, List.append_assoc]
  rfl

theorem eq_text_of_toList {kind message : List Char} (h : s.toList = kind ++ ':' :: ' ' :: message) :
    text ⟨String.ofList kind, String.ofList message⟩ = s := by
  apply String.toList_injective
  rw [toList_text, String.toList_ofList, String.toList_ofList, h]

/-- A kind without spaces ends at the first place where a space follows a colon. -/
theorem breakOn_text (h : ' ' ∉ e.kind.toList) :
    breakOn [':', ' '] e.text.toList = some (e.kind.toList, e.message.toList) := by
  have hkind : occursIn [':', ' '] e.kind.toList = false := by
    rw [← Bool.not_eq_true, occursIn_iff_isInfix]
    intro hpart
    exact h (hpart.subset (by simp))
  rw [toList_text]
  exact breakOn_pair (by decide) hkind _

theorem ofText_text (h : e.IsNamed) : ofText e.text = e := by
  obtain ⟨hne, hspace⟩ := h
  have hempty : e.kind.toList.isEmpty = false := by simpa using hne
  have hcontains : e.kind.toList.contains ' ' = false := by simpa using hspace
  rw [ofText, breakOn_text hspace]
  simp only [hempty, hcontains, Bool.or_self, Bool.false_eq_true, if_false, String.ofList_toList]

/-- A text is that of the exception as which it is read, or it is the message of it. -/
theorem ofText_cases (s : String) :
    ((ofText s).IsNamed ∧ (ofText s).text = s) ∨ ofText s = ofMessage s := by
  unfold ofText
  split
  · next kind message hbreak =>
    split
    · exact .inr rfl
    · next hkind =>
      rw [Bool.or_eq_true, not_or] at hkind
      obtain ⟨hempty, hspace⟩ := hkind
      have hs : s.toList = kind ++ ':' :: ' ' :: message := by
        rw [eq_of_breakOn hbreak, List.append_assoc]
        rfl
      refine .inl ⟨⟨?_, ?_⟩, eq_text_of_toList hs⟩
      · intro hne
        have hnil : kind = [] := by simpa using congrArg String.toList hne
        exact hempty (by rw [hnil]; rfl)
      · rw [String.toList_ofList]
        simpa using hspace
  · exact .inr rfl

theorem isNamed_ofText (s : String) : (ofText s).IsNamed := by
  rcases ofText_cases s with ⟨hnamed, -⟩ | hmessage
  · exact hnamed
  · rw [hmessage]
    exact isNamed_ofMessage s

/-- **An exception is read back from its text exactly if its kind has characters and no space.** What
is read from any text has such a kind, so reading its text once more changes nothing. The text that
was read is the text of what was read, or else its message, and then there is no exception with such
a kind that has this text. -/
theorem read_back_iff_isNamed :
    (∀ e : ExceptionInfo, ofText e.text = e ↔ e.IsNamed) ∧
      ∀ s, (ofText s).IsNamed ∧ ofText (ofText s).text = ofText s ∧
        ((ofText s).text = s ∨ ofText s = ofMessage s ∧ ∀ e, IsNamed e → e.text ≠ s) := by
  refine ⟨fun e => ⟨fun h => ?_, ofText_text⟩, fun s => ⟨isNamed_ofText s, ?_, ?_⟩⟩
  · rw [← h]
    exact isNamed_ofText e.text
  · exact ofText_text (isNamed_ofText s)
  · by_cases htext : (ofText s).text = s
    · exact .inl htext
    · rcases ofText_cases s with ⟨-, hsame⟩ | hmessage
      · exact absurd hsame htext
      · refine .inr ⟨hmessage, ?_⟩
        rintro e hnamed rfl
        rw [ofText_text hnamed] at htext
        exact htext rfl

/-- The message may have the separator in it; a kind with a space is taken for a part of the
message. -/
example : ofText "Outer: caused by Inner: gone" = ⟨"Outer", "caused by Inner: gone"⟩ ∧
    ofText "caused by Inner: gone" = ⟨"Exception", "caused by Inner: gone"⟩ := by decide

end LogFilter.ExceptionInfo
