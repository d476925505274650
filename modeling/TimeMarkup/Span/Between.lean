import TimeMarkup.Instant.Basic
import TimeMarkup.Span.Basic

/-!
This module contains the calendar span between two instants: as many whole months as fit, then the
time that is left over.
-/

namespace TimeMarkup

namespace Span

def isBeyond (start stop i : Instant) : Bool :=
  if stop < start then i < stop else stop < i

/--
The signed number of whole months from `start` that do not lead beyond `stop`, and the instant they
lead to. The search begins with the distance between the two months of the calendar and goes back
toward `start`.
-/
def wholeMonths (start stop : Instant) : Int × Instant :=
  go (stop.date.index - start.date.index).natAbs
where
  signed (n : Nat) : Int :=
    if stop < start then -n else n
  go : Nat → Int × Instant
    | 0 => (0, start)
    | n + 1 =>
      match start.addMonths? (signed (n + 1)) with
      | none => (0, start)
      | some i => if isBeyond start stop i then go n else (signed (n + 1), i)

def between (start stop : Instant) : Span :=
  let (months, anchor) := wholeMonths start stop
  let rest := anchor.elapsedTo stop
  carry
    { zero with
      months := Amount.clamp months
      seconds := Amount.clamp rest.seconds
      nanoseconds := Amount.clamp rest.subsecond }

end Span

end TimeMarkup
