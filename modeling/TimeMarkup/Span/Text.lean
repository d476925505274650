import TimeMarkup.Span.Basic
import TimeMarkup.Text.Decimal

/-!
This module contains the full listing of a span, which names every amount.
-/

namespace TimeMarkup

namespace Span

def fields (s : Span) : List (String × Amount) :=
  [("years", s.years), ("months", s.months), ("days", s.days), ("hours", s.hours),
   ("minutes", s.minutes), ("seconds", s.seconds), ("nanoseconds", s.nanoseconds)]

def listing (s : Span) : String :=
  let entries := s.fields.map fun (name, amount) => name ++ ": " ++ decimal amount.toInt
  "CalendarDelta \x7b " ++ ", ".intercalate entries ++ " \x7d"

end Span

end TimeMarkup
