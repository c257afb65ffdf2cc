import LogFilter.Proofs.Calendar.ReadBack

/-!
# Local times that are read back

The text of a time shows whole seconds, so what is read back from it is the time without the part of
a second (`DateTime.read?_text`). A leap second is shown as the second 60 and stays one.

Of the forms that are tried, that of RFC 3339 is the first. It asks for an offset, which the text
does not have, and for a year without a sign.
-/

namespace LogFilter

/-! ## Whole seconds -/

/-- The time without the part of its second, which may be a leap second. -/
def Time.wholeSecond (t : Time) : Time where
  hour := t.hour
  minute := t.minute
  second := t.second
  nanosecond := t.nanosecond / 1000000000 * 1000000000
  valid := by
    obtain ⟨hhour, hminute, hsecond, hnano, hleap⟩ := t.valid
    exact ⟨hhour, hminute, hsecond, by omega, fun h => hleap (by omega)⟩

def DateTime.wholeSecond (t : DateTime) : DateTime := ⟨t.date, t.time.wholeSecond⟩

theorem Time.shownSecond_wholeSecond (t : Time) : t.wholeSecond.shownSecond = t.shownSecond := by
  simp [shownSecond, wholeSecond]

theorem Time.shownNanosecond_wholeSecond (t : Time) : t.wholeSecond.shownNanosecond = 0 := by
  simp [shownNanosecond, wholeSecond]

namespace DateTime

open Text Decimal

/-- A time is in one place with its whole second exactly if no part of a second is shown. -/
theorem compare_wholeSecond {t : DateTime} :
    DateTime.compare t t.wholeSecond = .eq ↔ t.time.shownNanosecond = 0 := by
  simp only [DateTime.compare, Date.compare, Time.compare, wholeSecond, Time.wholeSecond,
    Time.shownNanosecond, Ordering.then_eq_eq, compare_eq_iff_eq, Std.ReflOrd.compare_self,
    true_and]
  omega

/-! ## Forms without blanks -/

variable {parts : Parts} {items : List Item}

theorem takeForm?_strict {field : Field} {width n : Nat} (hwidth : field.width = width)
    (hpos : 0 < width) (h : n < 10 ^ width) (rest : List Char) :
    takeForm? (.strict field :: items) parts (padded width n ++ rest) =
      takeForm? items (parts.set field n) rest := by
  simp [takeForm?, Item.take?, hwidth, takeDigits?_of_length (fun c => isDigit_of_mem_padded)
    (length_padded hpos h) (Nat.le_refl _), digitsValue_padded]

/-- There is no part of a second at the end of a text. -/
theorem takeForm?_fraction_nil :
    takeForm? (.fraction :: items) parts [] = takeForm? items parts [] := rfl

theorem takeForm?_lenientDate (d : Date) (rest : List Char) :
    takeForm? (lenientDate ++ items) {} (dateText d ++ rest) =
      takeForm? items { year := d.year, month := d.month, day := d.day } rest := by
  obtain ⟨-, -, -, hmonth, -, hday⟩ := d.valid
  have hdays := Date.daysInMonth_le d.year d.month
  simp only [dateText, lenientDate, List.append_assoc, List.cons_append, List.nil_append]
  rw [takeForm?_lenient (takeLenient?_yearText (by simp [Stops]) d.year), takeForm?_char,
    takeForm?_lenient (takeLenient?_padded (by decide) (by omega) _), takeForm?_char,
    takeForm?_lenient (takeLenient?_padded (by decide) (by omega) _)]
  rfl

theorem takeForm?_lenientTime (t : Time) (hparts : parts.nanosecond = 0) :
    takeForm? lenientTime parts (timeText t) =
      some (
        { parts with
          hour := t.hour
          minute := t.minute
          second := t.shownSecond
          nanosecond := 0 }, []) := by
  obtain ⟨hhour, hminute, -⟩ := t.valid
  simp only [timeText, lenientTime, List.append_assoc, List.cons_append, List.nil_append]
  rw [takeForm?_lenient (takeLenient?_padded (by decide) (by omega) _), takeForm?_char,
    takeForm?_lenient (takeLenient?_padded (by decide) (by omega) _), takeForm?_char,
    ← List.append_nil (padded 2 t.shownSecond),
    takeForm?_lenient (takeLenient?_padded (by decide) t.shownSecond_lt _), takeForm?_fraction_nil,
    ← hparts]
  rfl

/-- The date and the time of the text are apart by a blank. -/
theorem readForm?_blankForm_text (t : DateTime) :
    readForm? blankForm t.text = some t.wholeSecond := by
  have hblank : trimStart (' ' :: timeText t.time) = timeText t.time := by
    have hstops : Stops isBlank (timeText t.time) := by
      simpa [timeText] using stops_isBlank_padded 2 t.time.hour _
    exact (List.dropWhile_cons_of_pos (by decide)).trans (trimStart_of_stops hstops)
  have hparts := dateTime?_shown t.wholeSecond
  simp only [wholeSecond, Time.shownSecond_wholeSecond, Time.shownNanosecond_wholeSecond] at hparts
  have htake : takeForm? blankForm {} t.text =
      some (
        { year := t.date.year, month := t.date.month, day := t.date.day, hour := t.time.hour,
          minute := t.time.minute, second := t.time.shownSecond, nanosecond := 0 }, []) := by
    rw [blankForm, text, List.append_assoc, takeForm?_lenientDate]
    simp only [takeForm?, Item.take?, List.cons_append, List.nil_append, hblank]
    exact takeForm?_lenientTime t.time rfl
  rw [readForm?, htake]
  exact hparts

/-! ## No offset -/

theorem takeForm?_strictDate {d : Date} (hyear : 0 ≤ d.year ∧ d.year ≤ 9999) (rest : List Char) :
    ∃ parts, takeForm? strictDate {} (dateText d ++ rest) = some (parts, rest) := by
  obtain ⟨-, -, -, hmonth, -, hday⟩ := d.valid
  have hdays := Date.daysInMonth_le d.year d.month
  simp only [dateText, yearText, if_pos hyear, strictDate, List.append_assoc, List.cons_append,
    List.nil_append]
  rw [takeForm?_strict (by decide) (by decide) (by omega), takeForm?_char,
    takeForm?_strict (by decide) (by decide) (by omega), takeForm?_char,
    takeForm?_strict (by decide) (by decide) (by omega)]
  exact ⟨_, rfl⟩

/-- A sign is no digit of a year. -/
theorem takeForm?_strictDate_signed {d : Date} (hyear : ¬(0 ≤ d.year ∧ d.year ≤ 9999))
    (rest : List Char) : takeForm? strictDate {} (dateText d ++ rest) = none := by
  have hsign (sign : Char) (hsign : sign.isDigit = false) (s : List Char) :
      takeForm? strictDate {} (sign :: s) = none := by
    simp [strictDate, takeForm?, Item.take?, takeDigits?, Field.width, hsign]
  simp only [dateText, yearText, if_neg hyear, List.cons_append]
  split
  · exact hsign '-' (by decide) _
  · exact hsign '+' (by decide) _

theorem takeForm?_strictTime (parts : Parts) (t : Time) :
    ∃ parts', takeForm? strictTime parts (timeText t) = some (parts', []) := by
  obtain ⟨hhour, hminute, -⟩ := t.valid
  simp only [timeText, strictTime, List.append_assoc, List.cons_append, List.nil_append]
  rw [takeForm?_strict (by decide) (by decide) (by omega), takeForm?_char,
    takeForm?_strict (by decide) (by decide) (by omega), takeForm?_char,
    ← List.append_nil (padded 2 t.shownSecond),
    takeForm?_strict (by decide) (by decide) t.shownSecond_lt, takeForm?_fraction_nil]
  exact ⟨_, rfl⟩

/-- The text is not one of RFC 3339, because it ends where the offset would begin. -/
theorem readRfc3339?_text (t : DateTime) : readRfc3339? t.text = none := by
  have htext : t.text = dateText t.date ++ ' ' :: timeText t.time := by simp [text]
  rw [readRfc3339?, htext]
  by_cases hyear : 0 ≤ t.date.year ∧ t.date.year ≤ 9999
  · obtain ⟨parts, hdate⟩ := takeForm?_strictDate hyear (' ' :: timeText t.time)
    obtain ⟨parts', htime⟩ := takeForm?_strictTime parts t.time
    have hend : takeDateEnd? (' ' :: timeText t.time) = some (timeText t.time) := rfl
    have hoffset : takeOffset? takeColon? [] = none := rfl
    simp [hdate, hend, htime, hoffset]
  · simp [takeForm?_strictDate_signed hyear]

/-! ## Whole texts -/

theorem not_isBlank_of_mem_yearText {year : Int} {c : Char} (h : c ∈ yearText year) :
    isBlank c = false := by
  have hdigits (h : c ∈ padded 4 year.natAbs) : isBlank c = false :=
    not_isBlank_of_isDigit (isDigit_of_mem_padded h)
  unfold yearText at h
  split at h
  · exact hdigits h
  · rcases List.mem_cons.1 h with rfl | h
    · split <;> decide
    · exact hdigits h

theorem yearText_ne_nil (year : Int) : yearText year ≠ [] := by
  unfold yearText
  split
  · exact padded_ne_nil _ _
  · exact List.cons_ne_nil _ _

/-- The text begins with its year and ends with the digits of its second. -/
theorem trim_text (t : DateTime) : trim t.text = t.text := by
  refine trim_of_stops ?_ ?_
  · have hstart (rest : List Char) := stops_append (yearText_ne_nil t.date.year)
      (fun c => not_isBlank_of_mem_yearText) rest
    simpa only [text, dateText, List.append_assoc] using hstart _
  · have hdigits : ∀ c ∈ (padded 2 t.time.shownSecond).reverse, isBlank c = false :=
      fun c hc => not_isBlank_of_isDigit (isDigit_of_mem_padded (List.mem_reverse.1 hc))
    have hend (rest : List Char) :=
      stops_append (List.reverse_ne_nil_iff.2 (padded_ne_nil _ _)) hdigits rest
    simpa only [text, timeText, List.reverse_append, List.append_assoc] using hend _

/-- **A time is read back from its text** without the part of a second. -/
theorem read?_text (t : DateTime) : read? t.text = some t.wholeSecond := by
  rw [read?, trim_text, readRfc3339?_text, readForm?_blankForm_text]
  rfl

end DateTime

end LogFilter
