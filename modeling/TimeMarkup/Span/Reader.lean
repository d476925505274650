import TimeMarkup.Error

/-!
This module contains the reader of span text such as `1y2m`, `3 weeks 2d` or `90s`: components of
decreasing size, each an amount and the word for a unit.
-/

namespace TimeMarkup

namespace Span

inductive Word where
  | years
  | months
  | weeks
  | days
  | hours
  | minutes
  | seconds
deriving DecidableEq

namespace Word

def all : List Word :=
  [years, months, weeks, days, hours, minutes, seconds]

/-- The spellings of a unit. A small `m` is a month and a capital `M` a minute. -/
def spellings : Word → List String
  | years => ["years", "year", "Y", "y"]
  | months => ["months", "month", "m"]
  | weeks => ["weeks", "week", "W", "w"]
  | days => ["days", "day", "D", "d"]
  | hours => ["hours", "hour", "H", "h"]
  | minutes => ["minutes", "minute", "M"]
  | seconds => ["seconds", "second", "S", "s"]

end Word

def dropSpace : List Char → List Char
  | ' ' :: cs => cs
  | cs => cs

/--
Read a component of unit `u`: digits, one of the spellings of `u` with at most one space before it,
and at most one space after it unless `u` is the last unit.
-/
def component? (u : Word) (cs : List Char) : Option (Nat × List Char) :=
  let ds := cs.takeWhile Char.isDigit
  let afterDigits := dropSpace (cs.dropWhile Char.isDigit)
  let word := afterDigits.takeWhile Char.isAlpha
  let rest := afterDigits.dropWhile Char.isAlpha
  if ds ≠ [] ∧ String.ofList word ∈ u.spellings then
    some (ofDigits ds, if u = .seconds then rest else dropSpace rest)
  else
    none

def components? : List Word → List Char → Option (List (Word × Nat))
  | [], cs => if cs = [] then some [] else none
  | u :: us, cs =>
    match component? u cs with
    | some (n, rest) => (components? us rest).map ((u, n) :: ·)
    | none => components? us cs

def written (cs : List (Word × Nat)) (u : Word) : Nat :=
  (cs.lookup u).getD 0

def ofComponents? (cs : List (Word × Nat)) : Option Span := do
  let years ← Amount.ofInt? (written cs .years)
  let months ← Amount.ofInt? (written cs .months)
  let days ← Amount.ofInt? (7 * written cs .weeks + written cs .days)
  let hours ← Amount.ofInt? (written cs .hours)
  let minutes ← Amount.ofInt? (written cs .minutes)
  let seconds ← Amount.ofInt? (written cs .seconds)
  return ofParts years months days hours minutes seconds

/-- Read span text. Text without components is the empty span. -/
def ofText? (s : String) : Option Span := do
  ofComponents? (← components? Word.all s.toList)

def ofText (s : String) : Except Error Span :=
  match ofText? s with
  | some span => .ok span
  | none => .error (.unreadableSpan s)

end Span

end TimeMarkup
