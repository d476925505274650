import TimeMarkup.Calendar.Date
import TimeMarkup.Elapsed

/-!
This module contains the instants, points of universal time with nanosecond resolution from
January 1 of the year -262143 to the end of the year 262142.
-/

namespace TimeMarkup

/--
An instant, given by the nanoseconds since 1970-01-01T00:00:00Z. Days have 86400 seconds here: the
instants within a leap second, a second 59 with a nanosecond field of 1000000000 or more, are left
out.
-/
structure Instant where
  nanos : Int
  min_le : -8334601228800 * 1000000000 ≤ nanos
  le_max : nanos ≤ 8210266876799 * 1000000000 + 999999999
deriving DecidableEq

namespace Instant

instance : LT Instant where
  lt a b := a.nanos < b.nanos

instance : LE Instant where
  le a b := a.nanos ≤ b.nanos

instance (a b : Instant) : Decidable (a < b) :=
  inferInstanceAs (Decidable (a.nanos < b.nanos))

instance (a b : Instant) : Decidable (a ≤ b) :=
  inferInstanceAs (Decidable (a.nanos ≤ b.nanos))

theorem lt_def {a b : Instant} : a < b ↔ a.nanos < b.nanos :=
  Iff.rfl

theorem le_def {a b : Instant} : a ≤ b ↔ a.nanos ≤ b.nanos :=
  Iff.rfl

@[ext]
theorem ext {a b : Instant} (h : a.nanos = b.nanos) : a = b := by
  cases a
  cases b
  simp_all

def first : Instant := ⟨-8334601228800 * 1000000000, by omega, by omega⟩

def last : Instant := ⟨8210266876799 * 1000000000 + 999999999, by omega, by omega⟩

def epoch : Instant := ⟨0, by omega, by omega⟩

def ofNanos? (n : Int) : Option Instant :=
  if h : -8334601228800 * 1000000000 ≤ n ∧ n ≤ 8210266876799 * 1000000000 + 999999999 then
    some ⟨n, h.1, h.2⟩
  else
    none

theorem ofNanos?_eq_some_iff {n : Int} {i : Instant} : ofNanos? n = some i ↔ i.nanos = n := by
  unfold ofNanos?
  constructor
  · intro h
    split at h
    · simp at h
      simp [← h]
    · simp at h
  · rintro rfl
    rw [dif_pos ⟨i.min_le, i.le_max⟩]

def seconds (i : Instant) : Int :=
  i.nanos / nanosPerSecond

def subsecond (i : Instant) : Int :=
  i.nanos % nanosPerSecond

def date (i : Instant) : Date :=
  Date.ofDayNumber (i.nanos / nanosPerDay)

def timeOfDay (i : Instant) : Int :=
  i.nanos % nanosPerDay

def onDate? (d : Date) (time : Int) : Option Instant :=
  ofNanos? (nanosPerDay * d.dayNumber + time)

def elapsedTo (i j : Instant) : Elapsed :=
  ⟨j.nanos - i.nanos,
    by have := i.le_max; have := j.min_le; omega,
    by have := j.le_max; have := i.min_le; omega⟩

@[simp]
theorem nanos_elapsedTo (i j : Instant) : (i.elapsedTo j).nanos = j.nanos - i.nanos := rfl

def add? (i : Instant) (e : Elapsed) : Option Instant :=
  ofNanos? (i.nanos + e.nanos)

def addClamped (i : Instant) (e : Elapsed) : Instant :=
  match i.add? e with
  | some j => j
  | none => if e.nanos < 0 then first else last

/--
Move `i` by whole months at the same time of day, if the result is in range. The number of months is
held in 32 bits with a sign.
-/
def addMonths? (i : Instant) (n : Int) : Option Instant :=
  if n.natAbs ≤ 2147483647 then onDate? (i.date.addMonths n) i.timeOfDay else none

end Instant

namespace Date

/-- The years whose days all lie in the range of instants. -/
def InRange (d : Date) : Prop :=
  -262143 ≤ d.year ∧ d.year ≤ 262142

instance (d : Date) : Decidable d.InRange :=
  inferInstanceAs (Decidable (_ ∧ _))

theorem dayNumber_bounds {d : Date} (h : d.InRange) :
    -96465292 ≤ d.dayNumber ∧ d.dayNumber ≤ 95026236 := by
  have h₁ := d.one_le_month
  have h₂ := d.month_le
  have h₃ := d.one_le_day
  have h₄ := d.day_le
  have h₅ := monthLength_index d
  have h₆ := monthStart_add_one d.index
  have h₇ : d.index = 12 * d.year + (d.month - 1) := rfl
  have h₈ : -262143 ≤ d.year ∧ d.year ≤ 262142 := h
  have hlow : monthStart (12 * -262143) ≤ monthStart d.index := monthStart_le (by omega)
  have hhigh : monthStart (d.index + 1) ≤ monthStart (12 * 262143) := monthStart_le (by omega)
  have hfirst : monthStart (12 * -262143) = -96465292 := by decide +kernel
  have hlast : monthStart (12 * 262143) = 95026237 := by decide +kernel
  unfold dayNumber
  omega

def midnight (d : Date) (h : d.InRange) : Instant :=
  have := dayNumber_bounds h
  ⟨nanosPerDay * d.dayNumber, by unfold nanosPerDay; omega, by unfold nanosPerDay; omega⟩

end Date

end TimeMarkup
