import LogFilter.Calendar.DateTime

/-!
# Writing dates and times

Three forms of a date and time: in whole seconds, in milliseconds, and that of RFC 3339 with as
many groups of three digits as the part of a second needs. Years have four digits; years outside
`0` to `9999` have a sign and at least four.
-/

namespace LogFilter.DateTime

/-- Digits of a number with zeros in front of it up to a width. -/
def padded (width n : Nat) : List Char :=
  let ds := Nat.toDigits 10 n
  List.replicate (width - ds.length) '0' ++ ds

def yearText (year : Int) : List Char :=
  if 0 ≤ year ∧ year ≤ 9999 then padded 4 year.natAbs
  else (if year < 0 then '-' else '+') :: padded 4 year.natAbs

def dateText (d : Date) : List Char :=
  yearText d.year ++ ['-'] ++ padded 2 d.month ++ ['-'] ++ padded 2 d.day

def timeText (t : Time) : List Char :=
  padded 2 t.hour ++ [':'] ++ padded 2 t.minute ++ [':'] ++ padded 2 t.shownSecond

/-- Date and time in whole seconds. -/
def text (t : DateTime) : List Char := dateText t.date ++ [' '] ++ timeText t.time

/-- Date and time in milliseconds. -/
def millisecondText (t : DateTime) : List Char :=
  t.text ++ ['.'] ++ padded 3 (t.time.shownNanosecond / 1000000)

/-- A point and three, six or nine digits, or nothing. -/
def fractionText (nanosecond : Nat) : List Char :=
  if nanosecond = 0 then []
  else if nanosecond % 1000000 = 0 then '.' :: padded 3 (nanosecond / 1000000)
  else if nanosecond % 1000 = 0 then '.' :: padded 6 (nanosecond / 1000)
  else '.' :: padded 9 nanosecond

/-- The form of RFC 3339 for a time in the zone UTC. -/
def rfc3339Text (t : DateTime) : List Char :=
  dateText t.date ++ ['T'] ++ timeText t.time ++ fractionText t.time.shownNanosecond ++ ['Z']

end LogFilter.DateTime
