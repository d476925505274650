import TimeMarkup.Session
import TimeMarkup.Span.Reader

/-!
This module contains the notices that requests leave behind, in the order in which they arise. A
refused request leaves the notices from before the refusal.
-/

namespace TimeMarkup

namespace Span

def describeNotices (precision : String) (maxUnits : Int) : List Notice :=
  if 0 < maxUnits ∧ precision ∉ TimeUnit.all.map TimeUnit.name then [.unknownPrecision precision]
  else []

/-- Amounts that are out of range raise no notice. -/
def textNotices (s : String) : List Notice :=
  if (components? Word.all s.toList).isNone then [.spanTextMismatch s] else []

end Span

namespace Timestamp

/-- The notices of two timestamps. The second is only looked at if the first is accepted. -/
def pairNotices (t : Timestamp) (reference : Option Timestamp) : List Notice :=
  t.notices ++ if t.resolve.isOk then (reference.map notices).getD [] else []

end Timestamp

namespace Clock

def remainingNotices (c : Clock) (expiry : Option Timestamp) : List Notice :=
  match expiry.filter fun t => !t.isBlank with
  | none => []
  | some t =>
    t.notices ++
      match t.resolve with
      | .ok i => if i < c.now then [.expired i c.now] else []
      | .error _ => []

def distanceNotices (c : Clock) (primary reference : Option Timestamp) (precision : String)
    (maxUnits : Int) : List Notice :=
  match primary.filter fun t => !t.isBlank with
  | none => []
  | some t =>
    t.pairNotices reference
      ++ if (c.spanTo t reference).isOk then Span.describeNotices precision maxUnits else []

def notices (c : Clock) : Question → List Notice
  | .remaining expiry => c.remainingNotices expiry
  | .tokenWithDistance primary reference precision maxUnits =>
    c.distanceNotices primary reference precision maxUnits
  | .tokenWithShortDistance primary reference =>
    c.distanceNotices primary reference shortPrecision shortMaxUnits
  | .spanTo t reference => t.pairNotices reference
  | .elapsed _ => []

end Clock

def Session.notices (s : Session) : Request → List Notice
  | .move .. => []
  | .ask question => (s.clock .asker).notices question

end TimeMarkup
