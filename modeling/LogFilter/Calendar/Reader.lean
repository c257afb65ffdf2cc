import LogFilter.Calendar.DateTime
import LogFilter.Decimal.Reader
import LogFilter.Text.Blank

/-!
# Reading dates and times

A form is a list of items, each of which takes something from the start of the text. Fields come in
two kinds: strict ones have all their digits and nothing else, lenient ones may follow blanks, may
be shorter, and a lenient year may have a sign and then any number of digits.

Whether the fields make up a date is asked once all of them are there.
-/

namespace LogFilter.DateTime

open Text

/-! ## Forms -/

/-- The fields that a form can have. -/
inductive Field
  | year | month | day | hour | minute | second
  deriving DecidableEq, Repr

/-- One item of a form. -/
inductive Item
  /-- A field with exactly its width of digits. -/
  | strict (field : Field)
  /-- A field after blanks, with one digit up to its width. -/
  | lenient (field : Field)
  /-- A point and digits for a part of a second, or nothing. -/
  | fraction
  /-- Any number of blanks, or none. -/
  | blanks
  /-- One given character. -/
  | char (c : Char)

/-- What the fields of a text said; a form without times leaves midnight. -/
structure Parts where
  year : Int := 0
  month : Nat := 0
  day : Nat := 0
  hour : Nat := 0
  minute : Nat := 0
  second : Nat := 0
  nanosecond : Nat := 0

def Field.width : Field → Nat
  | year => 4
  | _ => 2

def Parts.set (parts : Parts) : Field → Int → Parts
  | .year, n => { parts with year := n }
  | .month, n => { parts with month := n.toNat }
  | .day, n => { parts with day := n.toNat }
  | .hour, n => { parts with hour := n.toNat }
  | .minute, n => { parts with minute := n.toNat }
  | .second, n => { parts with second := n.toNat }

/-- At least `least` and at most `most` digits. -/
def takeDigits? (least : Nat) (most : Option Nat) (s : List Char) : Option (Nat × List Char) :=
  let run := s.takeWhile Char.isDigit
  let ds := match most with
    | some n => run.take n
    | none => run
  if ds.length < least then none else some (Decimal.digitsValue ds, s.drop ds.length)

/-- A field that may be shorter than its width. -/
def takeLenient? (field : Field) (s : List Char) : Option (Int × List Char) :=
  match field, trimStart s with
  | .year, '-' :: r => (takeDigits? 1 none r).map fun p => (-(p.1 : Int), p.2)
  | .year, '+' :: r => (takeDigits? 1 none r).map fun p => ((p.1 : Int), p.2)
  | _, r => (takeDigits? 1 (some field.width) r).map fun p => ((p.1 : Int), p.2)

/-- Nanoseconds from up to nine digits; further digits are passed over. -/
def takeFraction? (s : List Char) : Option (Nat × List Char) :=
  let run := s.takeWhile Char.isDigit
  let ds := run.take 9
  if ds.isEmpty then none
  else some (Decimal.digitsValue ds * Nat.pow 10 (9 - ds.length), s.dropWhile Char.isDigit)

/-- What one item takes from a text. -/
def Item.take? (item : Item) (parts : Parts) (s : List Char) : Option (Parts × List Char) :=
  match item with
  | .strict field =>
    (takeDigits? field.width (some field.width) s).map fun p => (parts.set field p.1, p.2)
  | .lenient field => (takeLenient? field s).map fun p => (parts.set field p.1, p.2)
  | .fraction =>
    match s with
    | '.' :: r => (takeFraction? r).map fun p => ({ parts with nanosecond := p.1 }, p.2)
    | _ => some (parts, s)
  | .blanks => some (parts, trimStart s)
  | .char c =>
    match s with
    | d :: r => if d = c then some (parts, r) else none
    | [] => none

/-- What the items of a form take from a text, one after the other. -/
def takeForm? : List Item → Parts → List Char → Option (Parts × List Char)
  | [], parts, s => some (parts, s)
  | item :: items, parts, s =>
    match item.take? parts s with
    | some (parts, s) => takeForm? items parts s
    | none => none

/-- The date and time that fields make up. The second 60 is a leap second. -/
def Parts.dateTime? (p : Parts) : Option DateTime := do
  let date ← Date.of? p.year p.month p.day
  let time ←
    if p.second = 60 then Time.of? p.hour p.minute 59 (1000000000 + p.nanosecond)
    else Time.of? p.hour p.minute p.second p.nanosecond
  some ⟨date, time⟩

/-- A date and time that fills a text. -/
def readForm? (form : List Item) (s : List Char) : Option DateTime :=
  match takeForm? form {} s with
  | some (parts, []) => parts.dateTime?
  | _ => none

/-! ## Local times -/

def lenientDate : List Item := [.lenient .year, .char '-', .lenient .month, .char '-', .lenient .day]

def lenientTime : List Item :=
  [.lenient .hour, .char ':', .lenient .minute, .char ':', .lenient .second, .fraction]

/-- Date and time apart by blanks, or by nothing. -/
def blankForm : List Item := lenientDate ++ .blanks :: lenientTime

/-- Date and time apart by the letter T. -/
def letterForm : List Item := lenientDate ++ .char 'T' :: lenientTime

/-! ## Times with an offset -/

/-- A sign of an offset. -/
def takeOffsetSign? : List Char → Option (Bool × List Char)
  | '+' :: r => some (false, r)
  | '-' :: r => some (true, r)
  | '−' :: r => some (true, r)
  | _ => none

/-- Two digits. -/
def takeTwo? : List Char → Option (Nat × List Char)
  | a :: b :: r =>
    if a.isDigit && b.isDigit then some (Decimal.digitsValue [a, b], r) else none
  | _ => none

/-- The minutes of an offset: the letter Z, or a sign, hours, a separator and minutes. -/
def takeOffset? (separator : List Char → Option (List Char)) (s : List Char) :
    Option (Int × List Char) :=
  match s with
  | 'Z' :: r => some (0, r)
  | 'z' :: r => some (0, r)
  | _ => do
    let (negative, s) ← takeOffsetSign? s
    let (hours, s) ← takeTwo? s
    let s ← separator s
    let (minutes, s) ← takeTwo? s
    let total : Int := hours * 60 + minutes
    if 60 ≤ minutes || 1440 ≤ total then none
    else some (if negative then -total else total, s)

/-- The letter T in either case, or a space. -/
def takeDateEnd? : List Char → Option (List Char)
  | c :: r => if c = 't' || c = 'T' || c = ' ' then some r else none
  | [] => none

/-- The time in the zone UTC of a local time and its offset, which ends the text. -/
def inUtc? (parts : Parts) (offset : Int × List Char) : Option DateTime := do
  let t ← parts.dateTime?
  if offset.2.isEmpty then t.minusMinutes? offset.1 else none

def strictDate : List Item := [.strict .year, .char '-', .strict .month, .char '-', .strict .day]

def strictTime : List Item :=
  [.strict .hour, .char ':', .strict .minute, .char ':', .strict .second, .fraction]

def takeColon? : List Char → Option (List Char)
  | ':' :: r => some r
  | _ => none

/-- A time in the form of RFC 3339, in the zone UTC. -/
def readRfc3339? (s : List Char) : Option DateTime := do
  let (parts, s) ← takeForm? strictDate {} s
  let s ← takeDateEnd? s
  let (parts, s) ← takeForm? strictTime parts s
  let offset ← takeOffset? takeColon? s
  inUtc? parts offset

def spacedDate : List Item :=
  [.lenient .year, .blanks, .char '-', .lenient .month, .blanks, .char '-', .lenient .day]

def spacedTime : List Item :=
  [.lenient .hour, .blanks, .char ':', .lenient .minute, .blanks, .char ':', .lenient .second,
    .fraction, .blanks]

/-- Any number of colons and blanks. -/
def skipColons (s : List Char) : List Char := s.dropWhile fun c => c = ':' || isBlank c

/-- An offset, or the letters UTC in any case. -/
def takeZone? (s : List Char) : Option (Int × List Char) :=
  if (s.take 3).map Char.toUpper = ['U', 'T', 'C'] then some (0, s.drop 3)
  else takeOffset? (fun s => some (skipColons s)) s

/-- A time in a form near that of RFC 3339, in the zone UTC: blanks may stand between the parts,
fields may be short, and the zone may be written out. -/
def readRelaxed? (s : List Char) : Option DateTime := do
  let (parts, s) ← takeForm? spacedDate {} s
  let s ← takeDateEnd? s
  let (parts, s) ← takeForm? spacedTime parts s
  let (offset, s) ← takeZone? s
  inUtc? parts (offset, trimStart s)

/-- A time in any of the accepted forms; a date alone is its midnight. Blanks around it do not
count. -/
def read? (s : List Char) : Option DateTime :=
  let s := trim s
  readRfc3339? s <|> readForm? blankForm s <|> readForm? letterForm s <|> readForm? lenientDate s

end LogFilter.DateTime
