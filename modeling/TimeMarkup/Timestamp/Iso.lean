import TimeMarkup.Calendar.Week
import TimeMarkup.Instant.Basic
import TimeMarkup.Text.Decimal

/-!
This module contains timestamps in ISO 8601 text: calendar and week dates, an optional time of day
and an optional offset from universal time, each in its extended or basic form.
-/

namespace TimeMarkup

namespace Iso

inductive DateFields where
  | calendar (year month day : Nat)
  | week (year week day : Nat)
deriving DecidableEq

structure TimeFields where
  hour : Nat
  minute : Nat
  second : Nat
  fraction : List Char
deriving DecidableEq

structure OffsetFields where
  negative : Bool
  hours : Nat
  minutes : Nat
deriving DecidableEq

structure Fields where
  date : DateFields
  time : Option TimeFields
  offset : Option OffsetFields
deriving DecidableEq

def weekday? (cs : List Char) : Option (Nat × List Char) :=
  match readNumber? 1 cs with
  | some (day, rest) => if 1 ≤ day ∧ day ≤ 7 then some (day, rest) else none
  | none => none

/-- Read what follows the letter of a week date. A week without a day starts on its Monday. -/
def weekDate? (year : Nat) (cs : List Char) : Option (DateFields × List Char) := do
  let (week, cs) ← readNumber? 2 cs
  match cs with
  | '-' :: rest =>
    let (day, rest) ← weekday? rest
    return (.week year week day, rest)
  | _ =>
    match weekday? cs with
    | some (day, rest) => return (.week year week day, rest)
    | none => return (.week year week 1, cs)

/-- Read a date. A missing month or day is the first one. -/
def date? (cs : List Char) : Option (DateFields × List Char) := do
  let (year, cs) ← readNumber? 4 cs
  match cs with
  | '-' :: 'W' :: rest => weekDate? year rest
  | 'W' :: rest => weekDate? year rest
  | '-' :: rest =>
    let (month, rest) ← readNumber? 2 rest
    match rest with
    | '-' :: rest =>
      let (day, rest) ← readNumber? 2 rest
      return (.calendar year month day, rest)
    | _ => return (.calendar year month 1, rest)
  | _ =>
    match readNumber? 4 cs with
    | some (monthDay, rest) => return (.calendar year (monthDay / 100) (monthDay % 100), rest)
    | none => return (.calendar year 1 1, cs)

def fraction? (cs : List Char) : Option (List Char × List Char) :=
  match cs with
  | c :: rest =>
    if c = '.' ∨ c = ',' then
      let ds := rest.takeWhile Char.isDigit
      if ds = [] then none else some (ds, rest.dropWhile Char.isDigit)
    else
      some ([], cs)
  | [] => some ([], [])

/-- Read a time of day. A missing minute or second is zero. -/
def time? (cs : List Char) : Option (TimeFields × List Char) := do
  let (hour, cs) ← readNumber? 2 cs
  match cs with
  | ':' :: rest =>
    let (minute, rest) ← readNumber? 2 rest
    match rest with
    | ':' :: rest =>
      let (second, rest) ← readNumber? 2 rest
      let (fraction, rest) ← fraction? rest
      return (⟨hour, minute, second, fraction⟩, rest)
    | _ => return (⟨hour, minute, 0, []⟩, rest)
  | _ =>
    match readNumber? 2 cs with
    | none => return (⟨hour, 0, 0, []⟩, cs)
    | some (minute, rest) =>
      match readNumber? 2 rest with
      | none => return (⟨hour, minute, 0, []⟩, rest)
      | some (second, rest) =>
        let (fraction, rest) ← fraction? rest
        return (⟨hour, minute, second, fraction⟩, rest)

def offsetDigits? (negative : Bool) (cs : List Char) : Option (OffsetFields × List Char) := do
  let (hours, cs) ← readNumber? 2 cs
  match cs with
  | ':' :: rest =>
    let (minutes, rest) ← readNumber? 2 rest
    return (⟨negative, hours, minutes⟩, rest)
  | _ =>
    match readNumber? 2 cs with
    | some (minutes, rest) => return (⟨negative, hours, minutes⟩, rest)
    | none => return (⟨negative, hours, 0⟩, cs)

def offset? : List Char → Option (OffsetFields × List Char)
  | 'Z' :: cs => some (⟨false, 0, 0⟩, cs)
  | 'z' :: cs => some (⟨false, 0, 0⟩, cs)
  | '+' :: cs => offsetDigits? false cs
  | '-' :: cs => offsetDigits? true cs
  | _ => none

def fields? (cs : List Char) : Option Fields := do
  let (date, cs) ← date? cs
  match cs with
  | [] => return ⟨date, none, none⟩
  | c :: rest =>
    if c = 'T' ∨ c = 't' ∨ c = ' ' then
      let (time, rest) ← time? rest
      match rest with
      | [] => return ⟨date, some time, none⟩
      | rest =>
        let (offset, rest) ← offset? rest
        if rest = [] then return ⟨date, some time, some offset⟩ else none
    else
      none

def DateFields.date? : DateFields → Option Date
  | .calendar year month day => Date.ofFields? year month day
  | .week year number day => Date.ofWeek? year number day

/-- The fraction of a second in nanoseconds. Digits beyond the ninth are dropped. -/
def TimeFields.nanos (t : TimeFields) : Nat :=
  let ds := t.fraction.take 9
  ofDigits (ds ++ List.replicate (9 - ds.length) '0')

/-- The nanoseconds since midnight, up to the midnight that ends the day. -/
def TimeFields.nanosOfDay? (t : TimeFields) : Option Int :=
  let total := ((t.hour * 60 + t.minute) * 60 + t.second) * 1000000000 + t.nanos
  if t.minute ≤ 59 ∧ t.second ≤ 59 ∧ total ≤ 86400000000000 then some total else none

def OffsetFields.nanos? (o : OffsetFields) : Option Int :=
  if o.hours ≤ 23 ∧ o.minutes ≤ 59 then
    let total : Int := (o.hours * 60 + o.minutes) * nanosPerMinute
    some (if o.negative then -total else total)
  else
    none

/-- The instant that is written. A missing time is midnight, and a missing offset is zero. -/
def Fields.instant? (f : Fields) : Option Instant := do
  let date ← f.date.date?
  let time ← match f.time with
    | some t => t.nanosOfDay?
    | none => some 0
  let offset ← match f.offset with
    | some o => o.nanos?
    | none => some 0
  Instant.onDate? date (time - offset)

end Iso

end TimeMarkup
