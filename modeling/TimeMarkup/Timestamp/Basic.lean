import TimeMarkup.Error
import TimeMarkup.Notice
import TimeMarkup.Timestamp.Iso

/-!
This module contains the forms in which a point of time can be given, and the instant each stands
for.
-/

namespace TimeMarkup

namespace Binary64

def wholeSeconds (x : Binary64) : Except Error Amount :=
  match x with
  | .finite negative significand exponent =>
    match Amount.ofInt? (signed negative (wholePart significand exponent)) with
    | some n => .ok n
    | none => .error (.epochOutOfRange x)
  | _ => .error (.epochNotFinite x)

def fractionNanos : Binary64 → Int
  | .finite negative significand exponent => signed negative (billionths significand exponent)
  | _ => 0

end Binary64

namespace Instant

def ofSeconds (n : Amount) : Except Error Instant :=
  match ofNanos? (nanosPerSecond * n.toInt) with
  | some i => .ok i
  | none => .error (.secondsOutOfRange n)

def ofEpoch (x : Binary64) : Except Error Instant := do
  let whole ← x.wholeSeconds
  match ofNanos? (nanosPerSecond * whole.toInt + x.fractionNanos) with
  | some i => .ok i
  | none => .error (.epochOutOfRange x)

def ofText (s : String) : Except Error Instant :=
  match (Iso.fields? s.toList).bind Iso.Fields.instant? with
  | some i => .ok i
  | none => .error (.unreadableTimestamp s)

end Instant

inductive Timestamp where
  | seconds (n : Amount)
  | epoch (x : Float)
  | text (s : String)
  | instant (i : Instant)
  /-- The reading of a wall clock without a zone, held as the instant it names in universal time. -/
  | wallClock (reading : Instant)
  /-- A day, which stands for its midnight. -/
  | date (d : Date) (inRange : d.InRange)

namespace Timestamp

/-- Empty text, which stands for a missing timestamp. -/
def isBlank : Timestamp → Bool
  | text s => s.isEmpty
  | _ => false

theorem filter_not_isBlank {t : Timestamp} (h : t.isBlank = false) :
    (some t).filter (fun t => !t.isBlank) = some t := by
  simp [h]

/-- The instant that a timestamp stands for. What has no zone is read as universal time. -/
def resolve : Timestamp → Except Error Instant
  | seconds n => Instant.ofSeconds n
  | epoch x => Instant.ofEpoch (.ofFloat x)
  | text s => Instant.ofText s
  | instant i => .ok i
  | wallClock i => .ok i
  | date d h => .ok (d.midnight h)

def notices : Timestamp → List Notice
  | text s =>
    match Iso.fields? s.toList with
    | some f =>
      if f.time.isSome ∧ f.offset.isNone ∧ f.instant?.isSome then [.offsetAssumed s] else []
    | none => []
  | wallClock i => [.zoneAssumed i]
  | _ => []

end Timestamp

end TimeMarkup
