import LogFilter.Calendar.Printer
import LogFilter.Calendar.Reader
import LogFilter.Proofs.Decimal.Numeral
import LogFilter.Proofs.Text.Runs

/-!
# Times that are read back

The text of a time in the form of RFC 3339 is read as that time, for every year that can be told and
for leap seconds too: `DateTime.readRelaxed?_rfc3339Text`.
-/

namespace LogFilter

theorem Date.daysInMonth_le (year : Int) (month : Nat) : Date.daysInMonth year month ≤ 31 := by
  unfold Date.daysInMonth
  repeat' split
  all_goals omega

theorem Time.shownSecond_lt (t : Time) : t.shownSecond < 100 := by
  obtain ⟨-, -, hsecond, hnano, -⟩ := t.valid
  unfold Time.shownSecond
  omega

theorem Date.of?_self (d : Date) : Date.of? d.year d.month d.day = some d := dif_pos d.valid

theorem Time.of?_of_valid {hour minute second nanosecond : Nat}
    (h : Time.Valid hour minute second nanosecond) :
    Time.of? hour minute second nanosecond = some ⟨hour, minute, second, nanosecond, h⟩ :=
  dif_pos h

namespace DateTime

open Text Decimal

/-! ## Digits up to a width -/

theorem isDigit_of_mem_padded {width n : Nat} {c : Char} (h : c ∈ padded width n) :
    c.isDigit = true := by
  rcases List.mem_append.1 h with h | h
  · rw [List.eq_of_mem_replicate h]
    decide
  · exact isDigit_of_mem_digitChars h

theorem digitsValue_padded (width n : Nat) : digitsValue (padded width n) = n := by
  have hzeros : digitsValue (List.replicate (width - (Nat.toDigits 10 n).length) '0') = 0 :=
    digitsFrom_zeros 0 _
  rw [padded, digitsValue_append, hzeros]
  exact digitsValue_digitChars n

theorem padded_ne_nil (width n : Nat) : padded width n ≠ [] :=
  List.append_ne_nil_of_right_ne_nil _ (digitChars_ne_nil n)

theorem exists_padded_eq_cons (width n : Nat) :
    ∃ c r, padded width n = c :: r ∧ c.isDigit = true := by
  obtain ⟨c, r, hcons⟩ := List.exists_cons_of_ne_nil (padded_ne_nil width n)
  exact ⟨c, r, hcons, isDigit_of_mem_padded (by rw [hcons]; exact List.mem_cons_self)⟩

theorem padded_append_ne {width n : Nat} {rest r : List Char} {c : Char} (hc : c.isDigit = false) :
    padded width n ++ rest ≠ c :: r := by
  obtain ⟨d, ds, hcons, hdigit⟩ := exists_padded_eq_cons width n
  intro h
  rw [hcons, List.cons_append] at h
  rw [(List.cons.inj h).1, hc] at hdigit
  exact absurd hdigit (by decide)

theorem length_padded {width n : Nat} (hpos : 0 < width) (h : n < 10 ^ width) :
    (padded width n).length = width := by
  have hle : (Nat.toDigits 10 n).length ≤ width := (Nat.length_toDigits_le_iff (by decide) hpos).2 h
  simp only [padded, List.length_append, List.length_replicate]
  omega

/-- Digits of the greatest width are taken as they are, whatever follows. -/
theorem takeDigits?_of_length {least width : Nat} {ds rest : List Char}
    (hdigits : ∀ c ∈ ds, c.isDigit = true) (hlength : ds.length = width) (hleast : least ≤ width) :
    takeDigits? least (some width) (ds ++ rest) = some (digitsValue ds, rest) := by
  have htake : ((ds ++ rest).takeWhile Char.isDigit).take width = ds := by
    rw [List.takeWhile_append_of_pos hdigits, ← hlength, List.take_left]
  simp only [takeDigits?, htake]
  rw [if_neg (by omega), List.drop_left]

/-- Without a limit all digits are taken. -/
theorem takeDigits?_of_stops {ds rest : List Char} (hdigits : ∀ c ∈ ds, c.isDigit = true)
    (hne : ds ≠ []) (hrest : Stops Char.isDigit rest) :
    takeDigits? 1 none (ds ++ rest) = some (digitsValue ds, rest) := by
  have hlength := List.length_pos_iff.2 hne
  simp only [takeDigits?, takeWhile_append_of_stops hdigits hrest]
  rw [if_neg (by omega), List.drop_left]

/-! ## Fields -/

theorem stops_isBlank_padded (width n : Nat) (rest : List Char) :
    Stops isBlank (padded width n ++ rest) := by
  obtain ⟨c, r, hcons, hdigit⟩ := exists_padded_eq_cons width n
  simpa [hcons, Stops] using not_isBlank_of_isDigit hdigit

/-- A field of two digits, whatever follows. -/
theorem takeLenient?_padded {field : Field} (hfield : field ≠ .year) {n : Nat} (hn : n < 100)
    (rest : List Char) : takeLenient? field (padded 2 n ++ rest) = some ((n : Int), rest) := by
  have htrim := trimStart_of_stops (stops_isBlank_padded 2 n rest)
  have htake : takeDigits? 1 (some field.width) (padded 2 n ++ rest) = some (n, rest) := by
    have hwidth : field.width = 2 := by
      cases field with
      | year => exact absurd rfl hfield
      | _ => rfl
    rw [hwidth, takeDigits?_of_length (fun c => isDigit_of_mem_padded)
      (length_padded (by decide) hn) (by decide), digitsValue_padded]
  unfold takeLenient?
  rw [htrim]
  split
  · exact absurd rfl hfield
  · exact absurd rfl hfield
  · rw [htake]
    rfl

/-- A year with all its digits and its sign. -/
theorem takeLenient?_yearText {rest : List Char} (hrest : Stops Char.isDigit rest) (year : Int) :
    takeLenient? .year (yearText year ++ rest) = some (year, rest) := by
  have hsigned : takeDigits? 1 none (padded 4 year.natAbs ++ rest) = some (year.natAbs, rest) := by
    rw [takeDigits?_of_stops (fun c => isDigit_of_mem_padded) (padded_ne_nil _ _) hrest,
      digitsValue_padded]
  unfold yearText
  split
  · next hyear =>
    have hplain : takeDigits? 1 (some 4) (padded 4 year.natAbs ++ rest) =
        some (year.natAbs, rest) := by
      rw [takeDigits?_of_length (fun c => isDigit_of_mem_padded)
        (length_padded (by decide) (by omega)) (by decide), digitsValue_padded]
    unfold takeLenient?
    rw [trimStart_of_stops (stops_isBlank_padded 4 _ rest)]
    split
    · next hsign => exact absurd hsign (padded_append_ne (by decide))
    · next hsign => exact absurd hsign (padded_append_ne (by decide))
    · simp only [Field.width, hplain, Option.map_some]
      rw [Int.natAbs_of_nonneg hyear.1]
  · next hyear =>
    by_cases hneg : year < 0
    · have hread : takeLenient? .year ('-' :: (padded 4 year.natAbs ++ rest)) =
          (takeDigits? 1 none (padded 4 year.natAbs ++ rest)).map fun p => (-(p.1 : Int), p.2) :=
        rfl
      rw [if_pos hneg, List.cons_append, hread, hsigned, Option.map_some,
        Int.ofNat_natAbs_of_nonpos (by omega), Int.neg_neg]
    · have hread : takeLenient? .year ('+' :: (padded 4 year.natAbs ++ rest)) =
          (takeDigits? 1 none (padded 4 year.natAbs ++ rest)).map fun p => ((p.1 : Int), p.2) :=
        rfl
      rw [if_neg hneg, List.cons_append, hread, hsigned, Option.map_some,
        Int.natAbs_of_nonneg (by omega)]

/-! ## The parts of a second -/

theorem takeFraction?_padded {width n : Nat} (hpos : 0 < width) (hwidth : width ≤ 9)
    (hn : n < 10 ^ width) {rest : List Char} (hrest : Stops Char.isDigit rest) :
    takeFraction? (padded width n ++ rest) = some (n * 10 ^ (9 - width), rest) := by
  have hdigits : ∀ c ∈ padded width n, c.isDigit = true := fun c => isDigit_of_mem_padded
  have hlength := length_padded hpos hn
  have hempty : (padded width n).isEmpty = false := by simpa using padded_ne_nil width n
  simp only [takeFraction?, takeWhile_append_of_stops hdigits hrest,
    dropWhile_append_of_stops hdigits hrest]
  rw [List.take_of_length_le (by omega), hempty, digitsValue_padded, hlength]
  rfl

/-- As many groups of three digits as are written give the whole part of a second. -/
theorem take?_fraction {nanosecond : Nat} (h : nanosecond < 10 ^ 9) {parts : Parts}
    (hparts : parts.nanosecond = 0) (rest : List Char) :
    Item.take? .fraction parts (fractionText nanosecond ++ 'Z' :: rest) =
      some ({ parts with nanosecond := nanosecond }, 'Z' :: rest) := by
  have hstops : Stops Char.isDigit ('Z' :: rest) := by simp [Stops]
  have hgroups {width n : Nat} (hpos : 0 < width) (hwidth : width ≤ 9) (hn : n < 10 ^ width)
      (hvalue : n * 10 ^ (9 - width) = nanosecond) :
      Item.take? .fraction parts ('.' :: padded width n ++ 'Z' :: rest) =
        some ({ parts with nanosecond := nanosecond }, 'Z' :: rest) := by
    rw [List.cons_append, Item.take?, takeFraction?_padded hpos hwidth hn hstops, hvalue]
    rfl
  unfold fractionText
  split
  · next hzero =>
    rw [hzero, ← hparts]
    rfl
  · split
    · exact hgroups (by decide) (by decide) (by omega) (by omega)
    · split
      · exact hgroups (by decide) (by decide) (by omega) (by omega)
      · exact hgroups (by decide) (by decide) h (by omega)

/-! ## Forms -/

variable {parts : Parts} {items : List Item}

theorem takeForm?_lenient {field : Field} {s rest : List Char} {n : Int}
    (h : takeLenient? field s = some (n, rest)) :
    takeForm? (.lenient field :: items) parts s = takeForm? items (parts.set field n) rest := by
  simp [takeForm?, Item.take?, h]

theorem takeForm?_char (c : Char) (rest : List Char) :
    takeForm? (.char c :: items) parts (c :: rest) = takeForm? items parts rest := by
  simp [takeForm?, Item.take?]

theorem takeForm?_blanks {s : List Char} (h : Stops isBlank s) :
    takeForm? (.blanks :: items) parts s = takeForm? items parts s := by
  simp [takeForm?, Item.take?, trimStart_of_stops h]

/-- The date of a text in any of the forms that allow for blanks. -/
theorem takeForm?_spacedDate (d : Date) (rest : List Char) :
    takeForm? spacedDate {} (dateText d ++ rest) =
      some ({ year := d.year, month := d.month, day := d.day }, rest) := by
  obtain ⟨-, -, -, hmonth, -, hday⟩ := d.valid
  have hdays : d.day < 100 := by
    have hle := Date.daysInMonth_le d.year d.month
    omega
  have hhyphen : isBlank '-' = false := by decide
  simp only [dateText, spacedDate, List.append_assoc, List.cons_append, List.nil_append]
  rw [takeForm?_lenient (takeLenient?_yearText (by simp [Stops]) d.year),
    takeForm?_blanks (stops_cons hhyphen _), takeForm?_char,
    takeForm?_lenient (takeLenient?_padded (by decide) (by omega) _),
    takeForm?_blanks (stops_cons hhyphen _), takeForm?_char,
    takeForm?_lenient (takeLenient?_padded (by decide) hdays _)]
  rfl

/-- The time of day of a text in any of the forms that allow for blanks. -/
theorem takeForm?_spacedTime (t : Time) (hparts : parts.nanosecond = 0) (rest : List Char) :
    takeForm? spacedTime parts (timeText t ++ (fractionText t.shownNanosecond ++ 'Z' :: rest)) =
      some (
        { parts with
          hour := t.hour
          minute := t.minute
          second := t.shownSecond
          nanosecond := t.shownNanosecond }, 'Z' :: rest) := by
  obtain ⟨hhour, hminute, -⟩ := t.valid
  have hcolon : isBlank ':' = false := by decide
  have hnano : t.shownNanosecond < 10 ^ 9 := Nat.mod_lt _ (by decide)
  have hset : (((parts.set .hour t.hour).set .minute t.minute).set .second t.shownSecond).nanosecond
      = 0 := hparts
  simp only [timeText, spacedTime, List.append_assoc, List.cons_append, List.nil_append]
  rw [takeForm?_lenient (takeLenient?_padded (by decide) (by omega) _),
    takeForm?_blanks (stops_cons hcolon _), takeForm?_char,
    takeForm?_lenient (takeLenient?_padded (by decide) (by omega) _),
    takeForm?_blanks (stops_cons hcolon _), takeForm?_char,
    takeForm?_lenient (takeLenient?_padded (by decide) t.shownSecond_lt _), takeForm?,
    take?_fraction hnano hset rest]
  rfl

/-! ## Whole texts -/

/-- The fields of a time make it up again; the second 60 is a leap second. -/
theorem dateTime?_shown (t : DateTime) :
    Parts.dateTime?
      { year := t.date.year, month := t.date.month, day := t.date.day, hour := t.time.hour,
        minute := t.time.minute, second := t.time.shownSecond,
        nanosecond := t.time.shownNanosecond } = some t := by
  obtain ⟨date, hour, minute, second, nanosecond, hvalid⟩ := t
  obtain ⟨-, -, hsecond, hnano, hleap⟩ := id hvalid
  by_cases hl : 1000000000 ≤ nanosecond
  · obtain rfl : second = 59 := hleap hl
    have hnanosecond : 1000000000 + nanosecond % 1000000000 = nanosecond := by omega
    have hsecond : 59 + nanosecond / 1000000000 = 60 := by omega
    simp only [Parts.dateTime?, date.of?_self, Option.bind_eq_bind, Option.bind_some, Time.shownSecond,
      Time.shownNanosecond, hsecond, if_true, hnanosecond, Time.of?_of_valid hvalid]
  · have hnanosecond : nanosecond % 1000000000 = nanosecond := by omega
    have hshown : second + nanosecond / 1000000000 = second := by omega
    simp only [Parts.dateTime?, date.of?_self, Option.bind_eq_bind, Option.bind_some, Time.shownSecond,
      Time.shownNanosecond, hshown, hnanosecond]
    rw [if_neg (by omega), Time.of?_of_valid hvalid]
    rfl

theorem minusMinutes?_zero (t : DateTime) : t.minusMinutes? 0 = some t := by
  obtain ⟨date, hour, minute, second, nanosecond, hvalid⟩ := t
  obtain ⟨hhour, hminute, -⟩ := id hvalid
  have htotal : (((hour * 60 + minute : Nat) : Int) % 1440).toNat = hour * 60 + minute := by omega
  have hhours : (hour * 60 + minute) / 60 = hour := by omega
  have hminutes : (hour * 60 + minute) % 60 = minute := by omega
  simp only [minusMinutes?, Int.sub_zero, htotal, hhours, hminutes,
    Time.of?_of_valid hvalid]
  rw [if_neg (by omega), if_neg (by omega)]
  rfl

/-- **A time is read back from its text.** -/
theorem readRelaxed?_rfc3339Text (t : DateTime) : readRelaxed? t.rfc3339Text = some t := by
  have hend (s : List Char) : takeDateEnd? ('T' :: s) = some s := rfl
  have hzone : takeZone? ['Z'] = some (0, []) := by decide
  have hparts : Parts.nanosecond
      { year := t.date.year, month := t.date.month, day := t.date.day } = 0 := rfl
  have htime := takeForm?_spacedTime t.time hparts []
  simp only [readRelaxed?, rfc3339Text, List.append_assoc, List.cons_append, List.nil_append,
    takeForm?_spacedDate, Option.bind_eq_bind, Option.bind_some, hend, htime, hzone]
  rw [inUtc?, dateTime?_shown]
  exact minusMinutes?_zero t

end DateTime

end LogFilter
