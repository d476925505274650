import TimeMarkup.Proofs.Calendar.Week
import TimeMarkup.Proofs.Timestamp.Grammar

/-!
This module contains the spellings of timestamps: for a date, a time of day and an offset the texts
that write them, and the moment that they all stand for.
-/

namespace TimeMarkup

namespace Iso

/-- The ways to write a date. The short ones leave out a month or day that is the first one. -/
inductive DateStyle where
  | year
  | month
  | day
  | basicDay
  | week
  | weekday
  | basicWeek
  | basicWeekday

def DateStyle.write (d : Date) : DateStyle → String
  | .year => padded 4 d.year.toNat
  | .month => padded 4 d.year.toNat ++ "-" ++ padded 2 d.month.toNat
  | .day => padded 4 d.year.toNat ++ "-" ++ padded 2 d.month.toNat ++ "-" ++ padded 2 d.day.toNat
  | .basicDay => padded 4 d.year.toNat ++ padded 2 d.month.toNat ++ padded 2 d.day.toNat
  | .week => padded 4 d.weekYear.toNat ++ "-W" ++ padded 2 d.weekNumber.toNat
  | .weekday =>
    padded 4 d.weekYear.toNat ++ "-W" ++ padded 2 d.weekNumber.toNat ++ "-"
      ++ padded 1 d.dayOfWeek.toNat
  | .basicWeek => padded 4 d.weekYear.toNat ++ "W" ++ padded 2 d.weekNumber.toNat
  | .basicWeekday =>
    padded 4 d.weekYear.toNat ++ "W" ++ padded 2 d.weekNumber.toNat ++ padded 1 d.dayOfWeek.toNat

/-- The year takes four digits, and nothing is left out but the first month, day or weekday. -/
def DateStyle.Fits (d : Date) : DateStyle → Prop
  | .year => (0 ≤ d.year ∧ d.year ≤ 9999) ∧ d.month = 1 ∧ d.day = 1
  | .month => (0 ≤ d.year ∧ d.year ≤ 9999) ∧ d.day = 1
  | .day => 0 ≤ d.year ∧ d.year ≤ 9999
  | .basicDay => 0 ≤ d.year ∧ d.year ≤ 9999
  | .week => (0 ≤ d.weekYear ∧ d.weekYear ≤ 9999) ∧ d.dayOfWeek = 1
  | .weekday => 0 ≤ d.weekYear ∧ d.weekYear ≤ 9999
  | .basicWeek => (0 ≤ d.weekYear ∧ d.weekYear ≤ 9999) ∧ d.dayOfWeek = 1
  | .basicWeekday => 0 ≤ d.weekYear ∧ d.weekYear ≤ 9999

def colon (basic : Bool) : String :=
  if basic then "" else ":"

inductive TimeStyle where
  | hour
  | minute (basic : Bool)
  | second (basic : Bool)
  | fraction (basic comma : Bool)

def TimeStyle.write (t : TimeFields) : TimeStyle → String
  | .hour => padded 2 t.hour
  | .minute basic => padded 2 t.hour ++ colon basic ++ padded 2 t.minute
  | .second basic =>
    padded 2 t.hour ++ colon basic ++ padded 2 t.minute ++ colon basic ++ padded 2 t.second
  | .fraction basic comma =>
    padded 2 t.hour ++ colon basic ++ padded 2 t.minute ++ colon basic ++ padded 2 t.second
      ++ (if comma then "," else ".") ++ String.ofList t.fraction

/-- Nothing is left out but zeros, and a fraction is written with one digit or more. -/
def TimeStyle.Fits (t : TimeFields) : TimeStyle → Prop
  | .hour => t.minute = 0 ∧ t.second = 0 ∧ t.fraction = []
  | .minute _ => t.second = 0 ∧ t.fraction = []
  | .second _ => t.fraction = []
  | .fraction _ _ => t.fraction ≠ [] ∧ ∀ c ∈ t.fraction, c.isDigit

inductive OffsetStyle where
  | zulu (small : Bool)
  | hours
  | minutes (basic : Bool)

def OffsetFields.sign (o : OffsetFields) : String :=
  if o.negative then "-" else "+"

def OffsetStyle.write (o : OffsetFields) : OffsetStyle → String
  | .zulu small => if small then "z" else "Z"
  | .hours => o.sign ++ padded 2 o.hours
  | .minutes basic => o.sign ++ padded 2 o.hours ++ colon basic ++ padded 2 o.minutes

def OffsetStyle.Fits (o : OffsetFields) : OffsetStyle → Prop
  | .zulu _ => o.hours = 0 ∧ o.minutes = 0
  | .hours => o.minutes = 0
  | .minutes _ => True

inductive Separator where
  | capital
  | small
  | space

def Separator.write : Separator → String
  | capital => "T"
  | small => "t"
  | space => " "

structure SpelledOffset where
  fields : OffsetFields
  style : OffsetStyle

structure SpelledTime where
  separator : Separator
  fields : TimeFields
  style : TimeStyle
  offset : Option SpelledOffset

structure Spelling where
  date : Date
  style : DateStyle
  time : Option SpelledTime

namespace SpelledOffset

def text (o : SpelledOffset) : String :=
  o.style.write o.fields

structure WellFormed (o : SpelledOffset) : Prop where
  exists_fields : o.fields.Exists
  fits : o.style.Fits o.fields

def seconds (o : SpelledOffset) : Int :=
  if o.fields.negative then -(3600 * o.fields.hours + 60 * o.fields.minutes)
  else 3600 * o.fields.hours + 60 * o.fields.minutes

end SpelledOffset

namespace SpelledTime

def text (t : SpelledTime) : String :=
  t.separator.write ++ t.style.write t.fields ++ (t.offset.map SpelledOffset.text).getD ""

structure WellFormed (t : SpelledTime) : Prop where
  exists_fields : t.fields.Exists
  fits : t.style.Fits t.fields
  offset : ∀ o ∈ t.offset, o.WellFormed

def seconds (t : SpelledTime) : Int :=
  3600 * t.fields.hour + 60 * t.fields.minute + t.fields.second
    - (t.offset.map SpelledOffset.seconds).getD 0

def fractionNanos (t : SpelledTime) : Nat :=
  decimalValue t.fields.fraction * 10 ^ 9 / 10 ^ t.fields.fraction.length

end SpelledTime

namespace Spelling

def text (s : Spelling) : String :=
  s.style.write s.date ++ (s.time.map SpelledTime.text).getD ""

structure WellFormed (s : Spelling) : Prop where
  fits : s.style.Fits s.date
  time : ∀ t ∈ s.time, t.WellFormed

/-- Nanoseconds since the epoch. A missing time is midnight. -/
def nanos (s : Spelling) : Int :=
  (86400 * s.date.dayNumber + (s.time.map SpelledTime.seconds).getD 0) * nanosPerSecond
    + (s.time.map SpelledTime.fractionNanos).getD 0

end Spelling

end Iso

namespace Instant

variable (i : Instant)

def localDate (offset : Int) : Date :=
  Date.ofDayNumber ((i.nanos + offset * nanosPerMinute) / nanosPerDay)

def localTime (offset : Int) : Iso.TimeFields :=
  let nanos := ((i.nanos + offset * nanosPerMinute) % nanosPerDay).toNat
  { hour := nanos / 3600000000000
    minute := nanos / 60000000000 % 60
    second := nanos / 1000000000 % 60
    fraction := (padded 9 (nanos % 1000000000)).toList }

end Instant

def Iso.OffsetFields.ofMinutes (minutes : Int) : Iso.OffsetFields :=
  ⟨minutes < 0, minutes.natAbs / 60, minutes.natAbs % 60⟩

def Instant.spelling (i : Instant) (offset : Int) (date : Iso.DateStyle) (separator : Iso.Separator)
    (basic comma : Bool) (offsetStyle : Iso.OffsetStyle) : Iso.Spelling where
  date := i.localDate offset
  style := date
  time := some
    { separator := separator
      fields := i.localTime offset
      style := .fraction basic comma
      offset := some ⟨.ofMinutes offset, offsetStyle⟩ }

end TimeMarkup
