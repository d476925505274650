import TimeMarkup.Instant.Basic
import TimeMarkup.Text.Decimal

/-!
This module contains the text of an instant, such as `2021-06-15 12:00:00.500 UTC`.
-/

namespace TimeMarkup

/-- Years of four digits are bare. All others carry a sign. -/
def yearText (year : Int) : String :=
  let magnitude := padded 4 year.natAbs
  if year < 0 then "-" ++ magnitude
  else if 9999 < year then "+" ++ magnitude
  else magnitude

/-- A fraction of a second in the fewest of 3, 6 or 9 digits that are exact. -/
def fractionText (nanos : Nat) : String :=
  if nanos = 0 then ""
  else if nanos % 1000000 = 0 then "." ++ padded 3 (nanos / 1000000)
  else if nanos % 1000 = 0 then "." ++ padded 6 (nanos / 1000)
  else "." ++ padded 9 nanos

def Date.text (d : Date) : String :=
  yearText d.year ++ "-" ++ padded 2 d.month.toNat ++ "-" ++ padded 2 d.day.toNat

namespace Instant

def localText (i : Instant) : String :=
  let second := (i.timeOfDay / nanosPerSecond).toNat
  i.date.text ++ " " ++ padded 2 (second / 3600) ++ ":" ++ padded 2 (second / 60 % 60) ++ ":"
    ++ padded 2 (second % 60) ++ fractionText i.subsecond.toNat

def text (i : Instant) : String :=
  i.localText ++ " UTC"

end Instant

end TimeMarkup
