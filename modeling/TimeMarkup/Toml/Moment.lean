import TimeMarkup.Calendar.Date
import TimeMarkup.Text.Decimal
import TimeMarkup.Toml.Space

/-!
This module contains the dates and times of a TOML document.
-/

namespace TimeMarkup

namespace Toml

def date? (cs : List Char) : Option (List Char) := do
  let (year, cs) ← readNumber? 4 cs
  let '-' :: cs := cs | none
  let (month, cs) ← readNumber? 2 cs
  let '-' :: cs := cs | none
  let (day, cs) ← readNumber? 2 cs
  let _ ← Date.ofFields? year month day
  return cs

def hourMinute? (cs : List Char) : Option (List Char) := do
  let (hour, cs) ← readNumber? 2 cs
  let ':' :: cs := cs | none
  let (minute, cs) ← readNumber? 2 cs
  if hour ≤ 23 ∧ minute ≤ 59 then return cs else none

def dropFraction (cs : List Char) : List Char :=
  match cs with
  | '.' :: c :: rest => if c.isDigit then rest.dropWhile Char.isDigit else cs
  | _ => cs

/-- Read a time of day. A minute can have a leap second. -/
def time? (cs : List Char) : Option (List Char) := do
  let cs ← hourMinute? cs
  let ':' :: cs := cs | none
  let (second, cs) ← readNumber? 2 cs
  if second ≤ 60 then return dropFraction cs else none

def dropOffset (cs : List Char) : List Char :=
  match cs with
  | c :: rest =>
    if c = 'Z' ∨ c = 'z' then rest
    else if c = '+' ∨ c = '-' then (hourMinute? rest).getD cs
    else cs
  | [] => []

def dropTime (cs : List Char) : List Char :=
  match cs with
  | c :: rest =>
    if c = 'T' ∨ c = 't' ∨ c = ' ' then
      match time? rest with
      | some rest => dropOffset rest
      | none => cs
    else
      cs
  | [] => []

/-- Read a date, a time, or both. The literal is kept. -/
def moment? (cs : List Char) : Option (String × List Char) :=
  ((date? cs).map dropTime <|> time? cs).map fun rest =>
    (String.ofList (cs.take (cs.length - rest.length)), rest)

end Toml

end TimeMarkup
