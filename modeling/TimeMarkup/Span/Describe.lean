import TimeMarkup.Error

/-!
This module contains the description of a span in words, such as `2 years and 11 months`.
-/

namespace TimeMarkup

inductive TimeUnit where
  | years
  | months
  | days
  | hours
  | minutes
  | seconds
deriving DecidableEq

namespace TimeUnit

def all : List TimeUnit :=
  [years, months, days, hours, minutes, seconds]

def name : TimeUnit → String
  | years => "years"
  | months => "months"
  | days => "days"
  | hours => "hours"
  | minutes => "minutes"
  | seconds => "seconds"

end TimeUnit

def singular (s : String) : String :=
  String.ofList s.toList.dropLast

def phrase (n : Int) (name : String) : String :=
  if n = 1 then "1 " ++ singular name else decimal n ++ " " ++ name

def nothingPhrase (name : String) : String :=
  if name = "seconds" then "0 seconds" else "less than a " ++ singular name

def enumerate : List String → String
  | [] => ""
  | [p] => p
  | [p, q] => p ++ " and " ++ q
  | p :: ps => p ++ ", " ++ enumerate ps

namespace Span

def amount (s : Span) : TimeUnit → Amount
  | .years => s.years
  | .months => s.months
  | .days => s.days
  | .hours => s.hours
  | .minutes => s.minutes
  | .seconds => s.seconds

/--
The units that are shown: those that are not zero, up to the unit named by `precision`, and at most
`room` of them. A precision that names no unit sets no end.
-/
def shown (s : Span) (precision : String) : Nat → List TimeUnit → List TimeUnit
  | _, [] => []
  | room, u :: us =>
    if s.amount u = 0 then
      if u.name = precision then [] else shown s precision room us
    else
      if u.name = precision ∨ room ≤ 1 then [u] else u :: shown s precision (room - 1) us

def describe (s : Span) (precision : String) (maxUnits : Int) : Except Error String :=
  if maxUnits ≤ 0 then
    .error .maxUnitsNotPositive
  else
    match s.shown precision maxUnits.toNat TimeUnit.all with
    | [] => .ok (nothingPhrase precision)
    | us => .ok (enumerate (us.map fun u => phrase (s.amount u).toInt u.name))

end Span

end TimeMarkup
