import TimeMarkup.Amount

/-!
This module contains signed lengths of elapsed time. They have nanosecond resolution and reach
2^63 - 1 milliseconds in either direction.
-/

namespace TimeMarkup

def nanosPerSecond : Int := 1000000000

def nanosPerMinute : Int := 60000000000

def nanosPerHour : Int := 3600000000000

def nanosPerDay : Int := 86400000000000

structure Elapsed where
  nanos : Int
  min_le : -9223372036854775807000000 ≤ nanos
  le_max : nanos ≤ 9223372036854775807000000
deriving DecidableEq

namespace Elapsed

def ofNanos? (n : Int) : Option Elapsed :=
  if h : -9223372036854775807000000 ≤ n ∧ n ≤ 9223372036854775807000000 then some ⟨n, h.1, h.2⟩
  else none

theorem ofNanos?_eq_some_iff {n : Int} {e : Elapsed} : ofNanos? n = some e ↔ e.nanos = n := by
  unfold ofNanos?
  constructor
  · intro h
    split at h
    · simp at h
      simp [← h]
    · simp at h
  · rintro rfl
    rw [dif_pos ⟨e.min_le, e.le_max⟩]

def add? (a b : Elapsed) : Option Elapsed :=
  ofNanos? (a.nanos + b.nanos)

def ofDays? (n : Amount) : Option Elapsed :=
  ofNanos? (nanosPerDay * n.toInt)

def ofHours? (n : Amount) : Option Elapsed :=
  ofNanos? (nanosPerHour * n.toInt)

def ofMinutes? (n : Amount) : Option Elapsed :=
  ofNanos? (nanosPerMinute * n.toInt)

def ofSeconds? (n : Amount) : Option Elapsed :=
  ofNanos? (nanosPerSecond * n.toInt)

def ofNanoseconds (n : Amount) : Elapsed :=
  ⟨n.toInt, by have := n.le_toInt; omega, by have := n.toInt_lt; omega⟩

def seconds (e : Elapsed) : Int :=
  e.nanos.tdiv nanosPerSecond

def subsecond (e : Elapsed) : Int :=
  e.nanos.tmod nanosPerSecond

end Elapsed

end TimeMarkup
