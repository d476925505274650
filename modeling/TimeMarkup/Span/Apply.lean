import TimeMarkup.Error

/-!
This module contains the application of a span to an instant. Years and months come first and keep
the day of the month where the month reached has it. The other units have a fixed length.
-/

namespace TimeMarkup

namespace Span

def monthCount? (s : Span) : Option Amount := do
  let ofYears ← s.years.scale? 12
  ofYears.add? s.months

def fixedPart? (s : Span) : Option Elapsed := do
  let e ← Elapsed.ofDays? s.days
  let e ← e.add? (← Elapsed.ofHours? s.hours)
  let e ← e.add? (← Elapsed.ofMinutes? s.minutes)
  let e ← e.add? (← Elapsed.ofSeconds? s.seconds)
  e.add? (Elapsed.ofNanoseconds s.nanoseconds)

def addTo? (s : Span) (anchor : Instant) : Option Instant := do
  let months ← s.monthCount?
  let shifted ← anchor.addMonths? months.toInt
  shifted.add? (← s.fixedPart?)

def elapsedAt (s : Span) (anchor : Instant) : Except Error Elapsed :=
  match s.addTo? anchor with
  | some i => .ok (anchor.elapsedTo i)
  | none => .error (.spanOutOfRange s anchor)

end Span

end TimeMarkup
