import LogFilter.Except
import LogFilter.Proofs.Event.RoundTrip
import LogFilter.Proofs.FirstFailure
import LogFilter.Proofs.Text.Encoding
import Mathlib

/-!
# Lines that are counted and lines that are read

A text is cut into its physical lines (`HasLines`), and every one of them counts, while only those
that are not blank are read. So the events of a file are those of its lines that are not blank, and
the error of a file has the number that its line has among all lines (`readLines_eq_ok_iff`,
`readLines_eq_error_iff`).

Blank lines may therefore be inserted anywhere. They do not change the events and move the number in
an error by as many lines as were inserted before the one that fails. `events_of_lines` puts this
together for files of which the bytes are a text.
-/

namespace LogFilter.Event

open Text

/-! ## Physical lines -/

/-- A text and its lines. A line ends at a line feed, to which a carriage return before it belongs.
The last one may end with the text instead, if there is anything in it. -/
inductive HasLines : List Char → List (List Char) → Prop
  | nil : HasLines [] []
  | last {line : List Char} (hne : line ≠ []) (hfeed : '\n' ∉ line) : HasLines line [line]
  | feed {line rest : List Char} {lines : List (List Char)} (hfeed : '\n' ∉ line)
      (hreturn : line.getLast? ≠ some '\r') (h : HasLines rest lines) :
      HasLines (line ++ '\n' :: rest) (line :: lines)
  | returnFeed {line rest : List Char} {lines : List (List Char)} (hfeed : '\n' ∉ line)
      (h : HasLines rest lines) : HasLines (line ++ '\r' :: '\n' :: rest) (line :: lines)

theorem physicalLines_append {line : List Char} (hfeed : '\n' ∉ line) (rest : List Char) :
    physicalLines (line ++ '\n' :: rest) = dropReturn line :: physicalLines rest :=
  linesFrom_append hfeed [] rest

/-- Without a line feed all of a text is one line. -/
theorem linesFrom_of_not_mem {s : List Char} (hs : '\n' ∉ s) {line : List Char}
    (hne : line.reverse ++ s ≠ []) : linesFrom line s = [line.reverse ++ s] := by
  induction s generalizing line with
  | nil => simpa [linesFrom] using hne
  | cons c s ih =>
    obtain ⟨hc, hs⟩ := not_or.1 (mt List.mem_cons.2 hs)
    rw [linesFrom_cons (Ne.symm hc), ih hs (by simp)]
    simp

theorem dropReturn_of_getLast? {line : List Char} (h : line.getLast? ≠ some '\r') :
    dropReturn line = line :=
  if_neg h

theorem dropReturn_concat (line : List Char) : dropReturn (line ++ ['\r']) = line := by
  simp [dropReturn]

theorem HasLines.physicalLines_eq {text : List Char} {lines : List (List Char)}
    (h : HasLines text lines) : physicalLines text = lines := by
  induction h with
  | nil => rfl
  | last hne hfeed => exact linesFrom_of_not_mem hfeed hne
  | feed hfeed hreturn _ ih =>
    rw [physicalLines_append hfeed, ih, dropReturn_of_getLast? hreturn]
  | @returnFeed line rest lines hfeed _ ih =>
    have hfeed' : '\n' ∉ line ++ ['\r'] := by simp [hfeed]
    have htext : line ++ '\r' :: '\n' :: rest = line ++ ['\r'] ++ '\n' :: rest := by simp
    rw [htext, physicalLines_append hfeed', ih, dropReturn_concat]

/-- Every text has lines. -/
theorem hasLines_physicalLines (text : List Char) : HasLines text (physicalLines text) := by
  by_cases hfeed : '\n' ∈ text
  · obtain ⟨line, rest, htext, hline⟩ := List.eq_append_cons_of_mem hfeed
    have ih := hasLines_physicalLines rest
    rw [htext, physicalLines_append hline]
    by_cases hreturn : line.getLast? = some '\r'
    · obtain ⟨start, rfl⟩ := List.getLast?_eq_some_iff.1 hreturn
      have hstart : '\n' ∉ start := fun h => hline (List.mem_append_left _ h)
      rw [dropReturn_concat, List.append_assoc]
      exact .returnFeed hstart ih
    · rw [dropReturn_of_getLast? hreturn]
      exact .feed hline hreturn ih
  · by_cases hne : text = []
    · rw [hne]
      exact .nil
    · rw [physicalLines, linesFrom_of_not_mem hfeed (by simpa using hne)]
      exact .last hne hfeed
termination_by text.length
decreasing_by
  rw [htext, List.length_append, List.length_cons]
  omega

/-- **The physical lines of a text are its lines**, and it has no others. -/
theorem hasLines_iff {text : List Char} {lines : List (List Char)} :
    HasLines text lines ↔ physicalLines text = lines := by
  constructor
  · exact HasLines.physicalLines_eq
  · rintro rfl
    exact hasLines_physicalLines text

/-! ## Reading -/

variable {now : DateTime} {lines : List (List Char)} {events : List Event}

/-- The lines that are read. -/
def nonBlank (lines : List (List Char)) : List (List Char) :=
  lines.filter fun line => !isBlankText line

/-- The line does not end the reading: it is blank, or it holds an event. -/
def Passes (now : DateTime) (line : List Char) : Prop :=
  isBlankText line = true ∨ ∃ event, read now line = .ok event

/-- **The events of lines are those of the lines that are not blank**, in order. -/
theorem readLines_eq_ok_iff {number : Nat} :
    readLines now number lines = .ok events ↔
      List.Forall₂ (fun line event => read now line = .ok event) (nonBlank lines) events := by
  induction lines generalizing number events with
  | nil => simp [readLines, nonBlank, eq_comm]
  | cons line lines ih =>
    rw [readLines]
    cases hblank : isBlankText line with
    | true =>
      rw [if_pos rfl, ih, nonBlank, nonBlank, List.filter_cons_of_neg (by simp [hblank])]
    | false =>
      rw [if_neg (by simp), nonBlank, List.filter_cons_of_pos (by simp [hblank]), ← nonBlank]
      cases hread : read now line with
      | error fault =>
        refine iff_of_false (by simp) fun hall => ?_
        cases hall with
        | cons hfirst _ => exact absurd (hread.symm.trans hfirst) (by simp)
      | ok event =>
        simp only [Except.map_eq_ok, ih]
        constructor
        · rintro ⟨others, hothers, rfl⟩
          exact .cons hread hothers
        · intro hall
          cases hall with
          | cons hfirst hothers =>
            obtain rfl := Except.ok.inj (hread.symm.trans hfirst)
            exact ⟨_, hothers, rfl⟩

/-- **The error of lines is that of the first one which is neither blank nor an event**, with its
number among all lines. -/
theorem readLines_eq_error_iff {number : Nat} {error : LinesError} :
    readLines now number lines = .error error ↔
      ∃ i line, FailsFirst (Passes now) lines i line ∧
        ∃ fault, read now line = .error fault ∧ error = .invalidLine (number + i) fault := by
  induction lines generalizing number with
  | nil => simp [readLines, not_failsFirst_nil]
  | cons line lines ih =>
    -- what comes after a line that passes is counted on from the next number
    have later (hpasses : Passes now line) :
        readLines now (number + 1) lines = .error error ↔
          ∃ i other, FailsFirst (Passes now) (line :: lines) i other ∧
            ∃ fault, read now other = .error fault ∧
              error = .invalidLine (number + i) fault := by
      rw [exists_failsFirst_cons_of_passes hpasses, ih]
      simp only [Nat.add_assoc, Nat.add_comm 1]
    rw [readLines]
    cases hblank : isBlankText line with
    | true => exact later (.inl hblank)
    | false =>
      cases hread : read now line with
      | error fault =>
        have hfails : ¬Passes now line := by simp [Passes, hblank, hread]
        rw [exists_failsFirst_cons_of_not hfails, hread]
        simp [eq_comm]
      | ok event =>
        rw [if_neg (by simp), Except.map_eq_error]
        exact later (.inr ⟨event, hread⟩)

/-! ## Blank lines inserted -/

/-- The lines with blocks of others inserted: each block before the line at its own place, counted
from zero, and the last block at the end. -/
def insertAt (blocks : Nat → List (List Char)) : List (List Char) → List (List Char)
  | [] => blocks 0
  | line :: lines => blocks 0 ++ line :: insertAt (fun i => blocks (i + 1)) lines

/-- How many lines are inserted before the line of a number, which is counted from one. -/
def insertedBefore (blocks : Nat → List (List Char)) (number : Nat) : Nat :=
  ((List.range number).map fun i => (blocks i).length).sum

/-- The error with another number in it. -/
def LinesError.renumber (f : Nat → Nat) : LinesError → LinesError
  | .invalidLine number fault => .invalidLine (f number) fault
  | .unreadable cause => .unreadable cause

variable {blocks : Nat → List (List Char)}

theorem insertedBefore_succ (number : Nat) :
    insertedBefore blocks (number + 1) =
      (blocks 0).length + insertedBefore (fun i => blocks (i + 1)) number := by
  simp [insertedBefore, List.range_succ_eq_map, Function.comp_def]

theorem nonBlank_insertAt (h : ∀ i, ∀ line ∈ blocks i, isBlankText line = true) :
    nonBlank (insertAt blocks lines) = nonBlank lines := by
  have hblock (i : Nat) : nonBlank (blocks i) = [] := by
    rw [nonBlank, List.filter_eq_nil_iff]
    intro line hline
    simp [h i line hline]
  induction lines generalizing blocks with
  | nil => exact hblock 0
  | cons line lines ih =>
    have hlater := ih (fun i => h (i + 1)) fun i => hblock (i + 1)
    unfold nonBlank at hblock hlater ⊢
    rw [insertAt, List.filter_append, hblock 0, List.nil_append, List.filter_cons, List.filter_cons,
      hlater]

theorem failsFirst_insertAt {i : Nat} {line : List Char}
    (h : FailsFirst (Passes now) lines i line)
    (hblank : ∀ i, ∀ line ∈ blocks i, isBlankText line = true) :
    FailsFirst (Passes now) (insertAt blocks lines) (i + insertedBefore blocks (i + 1)) line := by
  have hblock (i : Nat) : ∀ line ∈ blocks i, Passes now line :=
    fun line hline => .inl (hblank i line hline)
  induction lines generalizing blocks i with
  | nil => exact absurd h not_failsFirst_nil
  | cons first lines ih =>
    have hrest : ∃ j, FailsFirst (Passes now)
        (first :: insertAt (fun i => blocks (i + 1)) lines) j line ∧
        i + insertedBefore blocks (i + 1) = (blocks 0).length + j := by
      by_cases hfirst : Passes now first
      · obtain ⟨j, rfl, hlater⟩ := (failsFirst_cons_of_passes hfirst).1 h
        have hfound := ih hlater (fun i => hblank (i + 1)) fun i => hblock (i + 1)
        refine ⟨_, (failsFirst_cons_of_passes hfirst).2 ⟨_, rfl, hfound⟩, ?_⟩
        rw [insertedBefore_succ]
        omega
      · obtain ⟨rfl, rfl⟩ := (failsFirst_cons_of_not hfirst).1 h
        refine ⟨0, (failsFirst_cons_of_not hfirst).2 ⟨rfl, rfl⟩, ?_⟩
        simp [insertedBefore]
    obtain ⟨j, hfound, hplace⟩ := hrest
    rw [hplace]
    exact hfound.append (hblock 0)

/-- **Blank lines that are inserted do not change the events**, and move the number in an error by
as many lines as come to stand before the one that fails. -/
theorem readLines_insertAt (hblank : ∀ i, ∀ line ∈ blocks i, isBlankText line = true) :
    readLines now 1 (insertAt blocks lines) =
      (readLines now 1 lines).mapError (.renumber fun n => n + insertedBefore blocks n) := by
  cases hlines : readLines now 1 lines with
  | ok events =>
    refine readLines_eq_ok_iff.2 ?_
    rw [nonBlank_insertAt hblank]
    exact readLines_eq_ok_iff.1 hlines
  | error error =>
    obtain ⟨i, line, hfirst, fault, hread, rfl⟩ := readLines_eq_error_iff.1 hlines
    refine readLines_eq_error_iff.2 ⟨_, line, failsFirst_insertAt hfirst hblank, fault, hread, ?_⟩
    rw [← Nat.add_assoc, LinesError.renumber, Nat.add_comm 1 i]

/-! ## Files -/

/-- What a file gives of which the bytes are those of a text. -/
def ofText (now : DateTime) (text : String) : Except LinesError (List Event) :=
  ofFile now (.ok (Text.decode text.toUTF8.data.toList))

theorem ofText_eq (now : DateTime) (text : String) :
    ofText now text = readLines now 1 (physicalLines text.toList) := by
  rw [ofText, decode_toUTF8]
  rfl

/-- **A file gives the events of its lines that are not blank**, in order, if all of them hold one.
Otherwise the first line that is neither blank nor an event is told with its number, counted from
one among all lines. So blank lines that are inserted change nothing but this number, to which they
add as many as come to stand before the line. -/
theorem events_of_lines (now : DateTime) (text : String) :
    (∀ lines, HasLines text.toList lines ↔ physicalLines text.toList = lines) ∧
      (∀ events, ofText now text = .ok events ↔
        List.Forall₂ (fun line event => read now line = .ok event)
          (nonBlank (physicalLines text.toList)) events) ∧
      (∀ error, ofText now text = .error error ↔
        ∃ i line, FailsFirst (Passes now) (physicalLines text.toList) i line ∧
          ∃ fault, read now line = .error fault ∧ error = .invalidLine (i + 1) fault) ∧
      ∀ (blocks : Nat → List (List Char)) (more : String),
        (∀ i, ∀ line ∈ blocks i, isBlankText line = true) →
        HasLines more.toList (insertAt blocks (physicalLines text.toList)) →
        ofText now more =
          (ofText now text).mapError (.renumber fun n => n + insertedBefore blocks n) := by
  rw [ofText_eq]
  refine ⟨fun lines => hasLines_iff, fun events => readLines_eq_ok_iff, fun error => ?_, ?_⟩
  · simp only [readLines_eq_error_iff, Nat.add_comm 1]
  · intro blocks more hblank hmore
    rw [ofText_eq, hmore.physicalLines_eq, readLines_insertAt hblank]

/-- A file of an event and of two lines that hold none. -/
def twoFaults : String := String.ofList (halfDoneLine ++ "\r\n?\n!".toList)

/-- The same with three blank lines more before the first fault. -/
def twoFaultsLater : String :=
  String.ofList ('\n' :: (halfDoneLine ++ "\n \t\r\n\n?\n!".toList))

theorem physicalLines_twoFaults :
    physicalLines twoFaults.toList = [halfDoneLine, ['?'], ['!']] := by
  rw [twoFaults, String.toList_ofList]
  decide

theorem physicalLines_twoFaultsLater :
    physicalLines twoFaultsLater.toList = [[], halfDoneLine, [' ', '\t'], [], ['?'], ['!']] := by
  rw [twoFaultsLater, String.toList_ofList]
  decide

/-- The fault on the second line is told, and with the blank lines it is on the fifth. -/
theorem events_of_lines_twoFaults :
    ofText newYear twoFaults = .error (.invalidLine 2 .malformed) ∧
      ofText newYear twoFaultsLater = .error (.invalidLine 5 .malformed) := by
  let blocks : Nat → List (List Char)
    | 0 => [[]]
    | 1 => [[' ', '\t'], []]
    | _ => []
  have hblank : ∀ i, ∀ line ∈ blocks i, isBlankText line = true := by
    rintro (_ | _ | i)
    · decide
    · decide
    · exact List.forall_mem_nil _
  have hread : read newYear ['?'] = .error .malformed := rfl
  have hfails : ¬Passes newYear ['?'] := by
    have hnot : isBlankText ['?'] = false := by decide
    simp [Passes, hread, hnot]
  have hfirst : FailsFirst (Passes newYear) (physicalLines twoFaults.toList) 1 ['?'] := by
    rw [physicalLines_twoFaults]
    exact (failsFirst_cons_of_passes (.inr ⟨_, read_halfDoneLine newYear⟩)).2
      ⟨0, rfl, (failsFirst_cons_of_not hfails).2 ⟨rfl, rfl⟩⟩
  obtain ⟨-, -, herror, hinsert⟩ := events_of_lines newYear twoFaults
  have hnumber := (herror (.invalidLine 2 .malformed)).2 ⟨1, _, hfirst, _, hread, rfl⟩
  have hmore : HasLines twoFaultsLater.toList
      (insertAt blocks (physicalLines twoFaults.toList)) := by
    rw [hasLines_iff, physicalLines_twoFaults, physicalLines_twoFaultsLater]
    rfl
  refine ⟨hnumber, ?_⟩
  rw [hinsert blocks twoFaultsLater hblank hmore, hnumber]
  rfl

end LogFilter.Event
