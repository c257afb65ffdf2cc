import LogFilter.Event.Lines
import LogFilter.Event.Printer
import LogFilter.Proofs.Decimal.Numeral
import LogFilter.Proofs.Text.Runs

/-!
# One line for each event

The line that is written for an event has no control characters: those of strings are escaped, and
numbers and words have none (`noControls_jsonLine`). So a text of such lines, each with a line feed
behind it, has these lines and no others (`physicalLines_jsonLines`).
-/

namespace LogFilter

open Decimal

/-! ## Control characters -/

/-- No character comes before the space. -/
def NoControls (s : List Char) : Prop := ∀ c ∈ s, 0x20 ≤ c.toNat

section

variable {s t : List Char}

@[simp]
theorem noControls_nil : NoControls [] := List.forall_mem_nil _

@[simp]
theorem noControls_cons {c : Char} : NoControls (c :: s) ↔ 0x20 ≤ c.toNat ∧ NoControls s :=
  List.forall_mem_cons

@[simp]
theorem noControls_append : NoControls (s ++ t) ↔ NoControls s ∧ NoControls t :=
  List.forall_mem_append

theorem noControls_intersperse {texts : List (List Char)} (hs : NoControls s)
    (h : ∀ text ∈ texts, NoControls text) : NoControls (texts.intersperse s).flatten := by
  induction texts with
  | nil => simp
  | cons text texts ih =>
    obtain ⟨htext, htexts⟩ := List.forall_mem_cons.1 h
    cases texts with
    | nil => simp [htext]
    | cons next others => simpa [List.intersperse_cons_cons, hs, htext] using ih htexts

theorem noControls_of_isDigit (h : ∀ c ∈ s, c.isDigit = true) : NoControls s := by
  intro c hc
  have hcode := List.mem_range'_1.1 (toNat_mem_of_isDigit (h c hc))
  omega

end

@[simp]
theorem noControls_digitChars (n : Nat) : NoControls (digitChars n) :=
  noControls_of_isDigit fun _ => isDigit_of_mem_digitChars

@[simp]
theorem noControls_zeros (n : Nat) : NoControls (zeros n) :=
  noControls_of_isDigit fun _ => isDigit_of_mem_zeros

/-! ## Numbers -/

namespace Decimal

theorem noControls_take_digitChars (n k : Nat) : NoControls ((digitChars n).take k) :=
  fun c hc => noControls_digitChars n c (List.mem_of_mem_take hc)

theorem noControls_drop_digitChars (n k : Nat) : NoControls ((digitChars n).drop k) :=
  fun c hc => noControls_digitChars n c (List.mem_of_mem_drop hc)

theorem noControls_positional (d : Digits) : NoControls (positional d) := by
  unfold positional
  dsimp only
  split
  · simp
  split
  · simp [noControls_take_digitChars, noControls_drop_digitChars]
  · simp

theorem noControls_scientific (d : Digits) : NoControls (scientific d) := by
  unfold scientific
  dsimp only
  have hfraction : NoControls (if ((digitChars d.coefficient).drop 1).isEmpty then []
      else '.' :: (digitChars d.coefficient).drop 1) := by
    split
    · exact noControls_nil
    · exact noControls_cons.2 ⟨by decide, noControls_drop_digitChars _ _⟩
  have hsign (e : Int) : 0x20 ≤ (if e < 0 then '-' else '+').toNat := by
    split <;> decide
  simp only [noControls_append, noControls_cons, hsign]
  exact ⟨⟨⟨noControls_take_digitChars _ _, hfraction⟩, by decide, trivial, noControls_nil⟩,
    noControls_digitChars _⟩

theorem noControls_doubleText (style : DoubleStyle) (x : Float) :
    NoControls (doubleText style x) := by
  have hmagnitude (bits : Nat) : NoControls (magnitudeText style bits) := by
    unfold magnitudeText
    split
    · exact noControls_positional _
    · dsimp only
      split
      · exact noControls_positional _
      · exact noControls_scientific _
  have hbody : NoControls (if isInfinite x then "Infinity".toList
      else magnitudeText style (magnitudeBits x)) := by
    split
    · simp
    · exact hmagnitude _
  unfold doubleText
  split
  · simp
  dsimp only
  split
  · exact noControls_cons.2 ⟨by decide, hbody⟩
  · exact hbody

end Decimal

/-! ## Values -/

namespace Json

theorem noControls_escapeChar (c : Char) : NoControls (escapeChar c) := by
  unfold escapeChar
  split
  any_goals simp
  split
  · next hlow =>
    have hhex : ∀ n < 16, 0x20 ≤ (hexDigit n).toNat := by decide
    simp [hhex (c.toNat / 16) (by omega), hhex (c.toNat % 16) (by omega)]
  · next hlow => simp [Nat.le_of_not_lt hlow]

@[simp]
theorem noControls_quoted (s : String) : NoControls (quoted s) := by
  have hbody : NoControls (s.toList.flatMap escapeChar) := by
    intro c hc
    obtain ⟨d, -, hd⟩ := List.mem_flatMap.1 hc
    exact noControls_escapeChar d c hd
  simp [quoted, hbody]

theorem noControls_numberText (n : Number) : NoControls n.text := by
  cases n with
  | int i =>
    rw [Number.text, toList_toString_int]
    split
    · simp
    · simp
  | double x => exact noControls_doubleText jsonStyle x

mutual

theorem noControls_text : (value : Json) → NoControls value.text
  | .null => by simp [text]
  | .bool true => by simp [text]
  | .bool false => by simp [text]
  | .number n => noControls_numberText n
  | .string s => noControls_quoted s
  | .array items => by simp [text, noControls_itemsText items]
  | .object fields => by simp [text, noControls_fieldsText fields]

theorem noControls_itemsText : (items : List Json) → NoControls (itemsText items)
  | [] => by simp [itemsText]
  | [item] => noControls_text item
  | item :: next :: rest => by
    simp [itemsText, noControls_text item, noControls_itemsText (next :: rest)]

theorem noControls_fieldsText : (fields : Fields) → NoControls (fieldsText fields)
  | [] => by simp [fieldsText]
  | [(name, value)] => by simp [fieldsText, noControls_text value]
  | (name, value) :: next :: rest => by
    simp [fieldsText, noControls_text value, noControls_fieldsText (next :: rest)]

end

end Json

/-! ## Events -/

namespace Event

theorem noControls_field {name : String} {value : List Char} (h : NoControls value) :
    NoControls (field name value) := by
  simp [field, h]

theorem noControls_quotedField (name text : String) : NoControls (field name (Json.quoted text)) :=
  noControls_field (Json.noControls_quoted text)

theorem noControls_exceptionField (e : ExceptionInfo) :
    NoControls (field "exception" ('\x7b' :: (exceptionText e ++ ['\x7d']))) := by
  have hfields := Json.noControls_fieldsText
    [("type", .string e.kind), ("message", .string e.message)]
  exact noControls_field (by simp [exceptionText, hfields])

theorem noControls_of_mem_fieldTexts {event : Event} {s : List Char} (h : s ∈ event.fieldTexts) :
    NoControls s := by
  simp only [fieldTexts, List.mem_append] at h
  rcases h with (((h | h) | h) | h) | h
  · simp only [List.mem_cons, List.not_mem_nil, or_false] at h
    rcases h with rfl | rfl | rfl
    · exact noControls_quotedField _ _
    · exact noControls_quotedField _ _
    · exact noControls_quotedField _ _
  · split at h
    · obtain rfl := List.mem_singleton.1 h
      exact noControls_exceptionField _
    · cases h
  · obtain rfl := List.mem_singleton.1 h
    exact noControls_quotedField _ _
  · split at h
    · cases h
    · obtain rfl := List.mem_singleton.1 h
      exact noControls_field (Json.noControls_text _)
  · split at h
    · cases h
    · obtain rfl := List.mem_singleton.1 h
      exact noControls_field (Json.noControls_text _)

/-- **The line that is written for an event has no control characters.** -/
theorem noControls_jsonLine (event : Event) : NoControls event.jsonLine.toList := by
  have hfields : NoControls (event.fieldTexts.intersperse [',']).flatten :=
    noControls_intersperse (by simp) fun _ => noControls_of_mem_fieldTexts
  rw [jsonLine, String.toList_ofList]
  simp [hfields]

/-! ## Lines -/

theorem linesFrom_cons {c : Char} (hc : c ≠ '\n') (line r : List Char) :
    linesFrom line (c :: r) = linesFrom (c :: line) r := by
  rw [linesFrom]
  exact hc

/-- A line feed ends the line that it comes after. -/
theorem linesFrom_append {s : List Char} (hs : '\n' ∉ s) (line rest : List Char) :
    linesFrom line (s ++ '\n' :: rest) =
      dropReturn (line.reverse ++ s) :: linesFrom [] rest := by
  -- `line` holds what was read of the line before `s`, in reverse order
  induction s generalizing line with
  | nil => simp [linesFrom]
  | cons c s ih =>
    obtain ⟨hc, hs⟩ := not_or.1 (mt List.mem_cons.2 hs)
    rw [List.cons_append, linesFrom_cons (Ne.symm hc), ih hs, List.reverse_cons, List.append_assoc]
    rfl

theorem not_mem_of_noControls {s : List Char} (hs : NoControls s) : '\n' ∉ s :=
  fun hfeed => absurd (hs _ hfeed) (by decide)

theorem dropReturn_of_noControls {s : List Char} (hs : NoControls s) : dropReturn s = s := by
  refine if_neg fun hreturn => ?_
  exact absurd (hs '\r' (List.mem_of_getLast? hreturn)) (by decide)

/-- **Lines without control characters, each with a line feed behind it, are the lines of their
text.** -/
theorem physicalLines_joined {lines : List (List Char)} (h : ∀ line ∈ lines, NoControls line) :
    physicalLines (lines.flatMap fun line => line ++ ['\n']) = lines := by
  induction lines with
  | nil => rfl
  | cons line lines ih =>
    obtain ⟨hline, hlines⟩ := List.forall_mem_cons.1 h
    have htext : (line :: lines).flatMap (fun line => line ++ ['\n']) =
        line ++ '\n' :: lines.flatMap fun line => line ++ ['\n'] := by simp
    unfold physicalLines at ih ⊢
    rw [htext, linesFrom_append (not_mem_of_noControls hline), ih hlines, List.reverse_nil, List.nil_append,
      dropReturn_of_noControls hline]

/-- The lines of events, one for each. -/
theorem physicalLines_jsonLines (events : List Event) :
    physicalLines (events.flatMap fun event => event.jsonLine.toList ++ ['\n']) =
      events.map fun event => event.jsonLine.toList := by
  have hlines : ∀ line ∈ events.map fun event => event.jsonLine.toList, NoControls line := by
    intro line hline
    obtain ⟨event, -, rfl⟩ := List.mem_map.1 hline
    exact event.noControls_jsonLine
  have hjoined := physicalLines_joined hlines
  rwa [List.flatMap_map] at hjoined

/-! ## Events of a file -/

variable {now : DateTime} {events : List Event} {event : Event}

theorem exists_read_of_readLines {number : Nat} {lines : List (List Char)}
    (h : readLines now number lines = .ok events) (hevent : event ∈ events) :
    ∃ line ∈ lines, read now line = .ok event := by
  induction lines generalizing number events with
  | nil =>
    cases h
    cases hevent
  | cons line lines ih =>
    rw [readLines] at h
    split at h
    · obtain ⟨line', hmem, hread⟩ := ih h hevent
      exact ⟨line', List.mem_cons_of_mem _ hmem, hread⟩
    split at h
    · cases h
    · next first hfirst =>
      obtain ⟨more, hmore, rfl⟩ := Except.map_eq_ok.1 h
      rcases List.mem_cons.1 hevent with rfl | hevent
      · exact ⟨line, List.mem_cons_self, hfirst⟩
      · obtain ⟨line', hmem, hread⟩ := ih hmore hevent
        exact ⟨line', List.mem_cons_of_mem _ hmem, hread⟩

theorem ofFile_eq_ok_iff {file : File} :
    ofFile now file = .ok events ↔
      ∃ text, file = .ok ⟨text, false⟩ ∧ readLines now 1 (physicalLines text) = .ok events := by
  cases file with
  | error cause => simp [ofFile]
  | ok contents =>
    obtain ⟨text, isBroken⟩ := contents
    cases isBroken with
    | false => simp [ofFile, readContents]
    | true =>
      simp only [ofFile, readContents, if_true]
      cases readLines now 1 (finishedLines text) <;> simp

/-- Each event of a file was read from a line. -/
theorem exists_read_of_ofFile {file : File} (h : ofFile now file = .ok events)
    (hevent : event ∈ events) : ∃ line, read now line = .ok event := by
  obtain ⟨text, -, hlines⟩ := ofFile_eq_ok_iff.1 h
  obtain ⟨line, -, hread⟩ := exists_read_of_readLines hlines hevent
  exact ⟨line, hread⟩

end Event

end LogFilter
