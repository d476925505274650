import TimeMarkup.Clock
import TimeMarkup.Span.Apply
import TimeMarkup.Span.Between
import TimeMarkup.Span.Describe
import TimeMarkup.Timestamp.Token

/-!
This module contains texts that depend on the current time: how far a timestamp is away, and what
remains until something expires.
-/

namespace TimeMarkup

namespace Clock

def resolveOrNow (c : Clock) : Option Timestamp → Except Error Instant
  | some t => t.resolve
  | none => .ok c.now

def spanTo (c : Clock) (t : Timestamp) (reference : Option Timestamp) : Except Error Span := do
  let i ← t.resolve
  let r ← c.resolveOrNow reference
  return Span.between r i

/--
The token for `primary` and its distance from `reference`, or from now, in words. A blank or missing
timestamp has none, whatever the other arguments are.
-/
def tokenWithDistance (c : Clock) (primary reference : Option Timestamp) (precision : String)
    (maxUnits : Int) : Except Error (Option String) :=
  match primary.filter fun t => !t.isBlank with
  | none => .ok none
  | some t => do
    let i ← t.resolve
    let span ← c.spanTo (.instant i) reference
    let distance ← span.abs.describe precision maxUnits
    return some (i.token .dateTime ++ " (" ++ distance ++ ")")

def shortPrecision : String := "seconds"

def shortMaxUnits : Int := 2

def tokenWithShortDistance (c : Clock) (primary reference : Option Timestamp) :
    Except Error (Option String) :=
  c.tokenWithDistance primary reference shortPrecision shortMaxUnits

def remaining (c : Clock) (expiry : Option Timestamp) : Except Error String :=
  match expiry.filter fun t => !t.isBlank with
  | none => .ok "Permanent"
  | some t => do
    let i ← t.resolve
    if i < c.now then return "Expired" else return i.token .relative

def elapsedFromNow (c : Clock) (s : Span) : Except Error Elapsed :=
  s.elapsedAt c.now

end Clock

end TimeMarkup
