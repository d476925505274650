import TimeMarkup.Amount

/-!
This module contains calendar spans: differences counted in years, months, days, hours, minutes,
seconds and nanoseconds. A year or month has no fixed length, so these two never trade with the
other units. Within both groups an amount beyond the size of its unit is carried upward.
-/

namespace TimeMarkup

structure Span where
  years : Amount
  months : Amount
  days : Amount
  hours : Amount
  minutes : Amount
  seconds : Amount
  nanoseconds : Amount
deriving DecidableEq

namespace Span

def zero : Span := ⟨0, 0, 0, 0, 0, 0, 0⟩

/--
Carry amounts upward until each is smaller than the next unit. Days stay as they are, for the length
of a month depends on where the span starts. Quotients are cut off toward zero, so a carry and what
it leaves behind have the sign of the amount.
-/
def carry (s : Span) : Span :=
  let seconds := s.seconds.addClamped (s.nanoseconds / 1000000000)
  let minutes := s.minutes.addClamped (seconds / 60)
  let hours := s.hours.addClamped (minutes / 60)
  { years := s.years.addClamped (s.months / 12)
    months := s.months % 12
    days := s.days.addClamped (hours / 24)
    hours := hours % 24
    minutes := minutes % 60
    seconds := seconds % 60
    nanoseconds := s.nanoseconds % 1000000000 }

def ofParts (years months days hours minutes seconds : Amount) : Span :=
  carry ⟨years, months, days, hours, minutes, seconds, 0⟩

def withYears (s : Span) (n : Amount) : Span :=
  { s with years := n }.carry

def withMonths (s : Span) (n : Amount) : Span :=
  { s with months := n }.carry

def withDays (s : Span) (n : Amount) : Span :=
  { s with days := n }.carry

def withWeeks (s : Span) (n : Amount) : Span :=
  s.withDays (n.scaleClamped 7)

def withHours (s : Span) (n : Amount) : Span :=
  { s with hours := n }.carry

def withMinutes (s : Span) (n : Amount) : Span :=
  { s with minutes := n }.carry

def withSeconds (s : Span) (n : Amount) : Span :=
  { s with seconds := n }.carry

def withNanoseconds (s : Span) (n : Amount) : Span :=
  { s with nanoseconds := n }.carry

def map (f : Amount → Amount) (s : Span) : Span :=
  ⟨f s.years, f s.months, f s.days, f s.hours, f s.minutes, f s.seconds, f s.nanoseconds⟩

instance : Neg Span where
  neg := map Amount.negClamped

def abs (s : Span) : Span :=
  s.map Amount.absClamped

def isZero (s : Span) : Bool :=
  s = zero

end Span

end TimeMarkup
