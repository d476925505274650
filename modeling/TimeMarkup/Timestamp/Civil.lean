import TimeMarkup.Timestamp.Basic

/-!
This module contains the construction of timestamps from the fields of a calendar and a clock.
-/

namespace TimeMarkup

structure Civil where
  year : Int
  month : Int
  day : Int
  hour : Int
  minute : Int
  second : Int
  nanosecond : Int

namespace Civil

inductive Fault where
  | date
  | time
  | instant
  | offset
deriving DecidableEq

def Fault.message : Fault → String
  | date => "valid fixture date"
  | time => "valid fixture time"
  | instant => "valid fixture instant"
  | offset => "valid fixture offset"

def date? (c : Civil) : Option { d : Date // d.InRange } := do
  let d ← Date.ofFields? c.year c.month c.day
  if h : d.InRange then some ⟨d, h⟩ else none

def timeOfDay? (c : Civil) : Option Int :=
  if (0 ≤ c.hour ∧ c.hour ≤ 23) ∧ (0 ≤ c.minute ∧ c.minute ≤ 59) ∧ 0 ≤ c.second ∧ c.second ≤ 59 then
    some (((c.hour * 60 + c.minute) * 60 + c.second) * nanosPerSecond + c.nanosecond)
  else
    none

/-- The instant at which clocks `offset` seconds ahead of universal time show the fields. -/
def instant? (c : Civil) (offset : Int) : Option Instant := do
  let d ← c.date?
  let time ← c.timeOfDay?
  Instant.onDate? d (time - offset * nanosPerSecond)

end Civil

namespace Timestamp

def ofCivilUtc (c : Civil) : Except Civil.Fault Timestamp :=
  match c.instant? 0 with
  | some i => .ok (instant i)
  | none => .error .instant

/-- Offsets are shorter than a day. -/
def ofCivilOffset (offset : Int) (c : Civil) : Except Civil.Fault Timestamp :=
  if offset < -86399 ∨ 86399 < offset then .error .offset
  else
    match c.instant? offset with
    | some i => .ok (instant i)
    | none => .error .instant

def ofCivilWallClock (c : Civil) : Except Civil.Fault Timestamp :=
  match c.date?, c.instant? 0 with
  | none, _ => .error .date
  | some _, none => .error .time
  | some _, some i => .ok (wallClock i)

def ofCivilDate (c : Civil) : Except Civil.Fault Timestamp :=
  match c.date? with
  | some ⟨d, h⟩ => .ok (date d h)
  | none => .error .date

end Timestamp

end TimeMarkup
