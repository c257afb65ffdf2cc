/-!
# Dates and times of day

A date of the Gregorian calendar, carried back before its introduction and with a year zero, and a
time of day to the nanosecond. Both carry the proof that they exist, so a 30th of February is not a
`Date`.

A leap second is the second 59 of its minute with a nanosecond of `10 ^ 9` or more.
-/

namespace LogFilter

/-! ## Dates -/

/-- Whether a year has a 29th of February. -/
def Date.isLeapYear (year : Int) : Bool :=
  year % 4 == 0 && (year % 100 != 0 || year % 400 == 0)

/-- How many days a month has. -/
def Date.daysInMonth (year : Int) (month : Nat) : Nat :=
  match month with
  | 2 => if Date.isLeapYear year then 29 else 28
  | 4 | 6 | 9 | 11 => 30
  | _ => 31

/-- The dates that can be told: some 262 thousand years to either side of the year zero. -/
def Date.Valid (year : Int) (month day : Nat) : Prop :=
  -262143 ≤ year ∧ year ≤ 262142 ∧ 1 ≤ month ∧ month ≤ 12 ∧ 1 ≤ day
    ∧ day ≤ Date.daysInMonth year month

instance (year : Int) (month day : Nat) : Decidable (Date.Valid year month day) := by
  unfold Date.Valid
  infer_instance

/-- A day of the calendar. -/
structure Date where
  year : Int
  month : Nat
  day : Nat
  valid : Date.Valid year month day
  deriving DecidableEq

namespace Date

/-- The date of three numbers, if there is such a date. -/
def of? (year : Int) (month day : Nat) : Option Date :=
  if h : Valid year month day then some ⟨year, month, day, h⟩ else none

/-- The day after. -/
def next? (d : Date) : Option Date :=
  if d.day < daysInMonth d.year d.month then of? d.year d.month (d.day + 1)
  else if d.month < 12 then of? d.year (d.month + 1) 1
  else of? (d.year + 1) 1 1

/-- The day before. -/
def previous? (d : Date) : Option Date :=
  if 1 < d.day then of? d.year d.month (d.day - 1)
  else if 1 < d.month then of? d.year (d.month - 1) (daysInMonth d.year (d.month - 1))
  else of? (d.year - 1) 12 31

/-- Earlier dates come first. -/
protected def compare (a b : Date) : Ordering :=
  (Ord.compare a.year b.year).then ((Ord.compare a.month b.month).then (Ord.compare a.day b.day))

end Date

/-! ## Times of day -/

/-- The times of day, with a leap second in every minute. -/
def Time.Valid (hour minute second nanosecond : Nat) : Prop :=
  hour < 24 ∧ minute < 60 ∧ second < 60 ∧ nanosecond < 2000000000
    ∧ (1000000000 ≤ nanosecond → second = 59)

instance (hour minute second nanosecond : Nat) :
    Decidable (Time.Valid hour minute second nanosecond) := by
  unfold Time.Valid
  infer_instance

/-- A time of day. -/
structure Time where
  hour : Nat
  minute : Nat
  second : Nat
  nanosecond : Nat
  valid : Time.Valid hour minute second nanosecond
  deriving DecidableEq

namespace Time

/-- The time of four numbers, if there is such a time. -/
def of? (hour minute second nanosecond : Nat) : Option Time :=
  if h : Valid hour minute second nanosecond then some ⟨hour, minute, second, nanosecond, h⟩
  else none

def midnight : Time := ⟨0, 0, 0, 0, by decide⟩

/-- Earlier times come first. -/
protected def compare (a b : Time) : Ordering :=
  (Ord.compare a.hour b.hour).then
    ((Ord.compare a.minute b.minute).then
      ((Ord.compare a.second b.second).then (Ord.compare a.nanosecond b.nanosecond)))

/-- The second as it is written, where a leap second counts as the second 60. -/
def shownSecond (t : Time) : Nat := t.second + t.nanosecond / 1000000000

/-- The part of a second as it is written. -/
def shownNanosecond (t : Time) : Nat := t.nanosecond % 1000000000

end Time

/-! ## Both together -/

/-- A date and a time of day, in no particular time zone. -/
structure DateTime where
  date : Date
  time : Time
  deriving DecidableEq

namespace DateTime

/-- Earlier times come first. -/
protected def compare (a b : DateTime) : Ordering :=
  (Date.compare a.date b.date).then (Time.compare a.time b.time)

/-- The time `minutes` earlier, for less than a day in either direction. -/
def minusMinutes? (t : DateTime) (minutes : Int) : Option DateTime := do
  let total := (t.time.hour * 60 + t.time.minute : Nat) - minutes
  let date ←
    if total < 0 then t.date.previous?
    else if 1440 ≤ total then t.date.next?
    else some t.date
  let ofDay := (total % 1440).toNat
  let time ← Time.of? (ofDay / 60) (ofDay % 60) t.time.second t.time.nanosecond
  some ⟨date, time⟩

end DateTime

end LogFilter
