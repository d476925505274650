import TimeMarkup.Proofs.Span.Apply
import TimeMarkup.Proofs.Span.Greedy
import TimeMarkup.Proofs.Span.Reachable

/-!
This module contains the recovery of spans from the instants that they connect. The main statement
says that a span of one sign with at most 27 days is the span between its anchor and the instant it
leads to, since two shifts that differ by a month lie at least 28 days apart.
-/

namespace TimeMarkup

namespace Span

variable {s : Span} {a b : Instant}

theorem fixedNanos_natAbs_lt (hs : s.Normal) (hdays : s.days.toInt.natAbs ≤ 27) :
    s.fixedNanos.natAbs < 28 * 86400000000000 := by
  have ⟨_, hhours, hminutes, hseconds, hnanos⟩ := hs
  unfold fixedNanos nanosPerDay nanosPerHour nanosPerMinute nanosPerSecond
  omega

theorem Along.one_of_totals_eq_zero (hsd : s.Along (-1)) (hmonths : s.totalMonths = 0)
    (hfixed : s.fixedNanos = 0) : s.Along 1 := by
  have ⟨_, _, _, _, _, _, _⟩ := hsd
  unfold totalMonths at hmonths
  unfold fixedNanos nanosPerDay nanosPerHour nanosPerMinute nanosPerSecond at hfixed
  constructor <;> omega

theorem along_direction (hs : s.Normal) (hsign : s.Along 1 ∨ s.Along (-1))
    (h : s.addTo? a = some b) : s.Along (direction a b) := by
  rw [addTo?_eq_some_iff hs] at h
  obtain ⟨-, hb⟩ := h
  have hzero := Instant.nanosAfterMonths_zero a
  rcases hsign with hsd | hsd
  · have hmonths := hsd.totalMonths_nonneg
    have hfixed := hsd.fixedNanos_nonneg
    have hforth := Instant.nanosAfterMonths_le a (m := 0) (n := s.totalMonths) (by omega)
    rcases direction_eq a b with ⟨_, hlt⟩ | ⟨hdir, _⟩
    · omega
    · rw [hdir]
      exact hsd
  · have hmonths := hsd.totalMonths_nonneg
    have hfixed := hsd.fixedNanos_nonneg
    have hback := Instant.nanosAfterMonths_le a (m := s.totalMonths) (n := 0) (by omega)
    rcases direction_eq a b with ⟨hdir, _⟩ | ⟨hdir, hle⟩
    · rw [hdir]
      exact hsd
    · -- A single month back would lead back already.
      have hnone : s.totalMonths = 0 := by
        apply Int.le_antisymm
        · omega
        · apply Int.not_lt.mp
          intro hlt
          have := Instant.nanosAfterMonths_lt a hlt
          omega
      have hrest : s.fixedNanos = 0 := by
        rw [hnone, hzero] at hb
        omega
      rw [hdir]
      exact hsd.one_of_totals_eq_zero hnone hrest

-- The rest is shorter than the gap to the next shift, so no further month fits.
theorem exists_isFarthest_of_addTo? (hs : s.Normal) (hsd : s.Along (direction a b))
    (hdays : s.days.toInt.natAbs ≤ 27) (h : s.addTo? a = some b) :
    ∃ anchor, IsFarthest a b s.totalMonths anchor
      ∧ s.fixedNanos = b.nanos - anchor.nanos := by
  have hfixed := hsd.fixedNanos_nonneg
  have hshort := fixedNanos_natAbs_lt hs hdays
  rw [addTo?_eq_some_iff hs] at h
  obtain ⟨hsome, hb⟩ := h
  obtain ⟨anchor, hanchor⟩ := Option.isSome_iff_exists.mp hsome
  have hnanos := Instant.addMonths?_eq_some_iff.mp hanchor
  have hrest : s.fixedNanos = b.nanos - anchor.nanos := by omega
  refine ⟨anchor, ?_, hrest⟩
  constructor
  case toward => exact hsd.totalMonths_nonneg
  case reached => exact hanchor
  case not_beyond =>
    rw [← hrest]
    exact hfixed
  case beyond =>
    have hafter := Instant.nanosAfterMonths_add_one_bounds a s.totalMonths
    have hbefore := Instant.nanosAfterMonths_add_one_bounds a (s.totalMonths + -1)
    rw [Int.add_assoc, Int.add_left_neg, Int.add_zero] at hbefore
    unfold nanosPerDay at hafter hbefore
    rcases direction_eq a b with ⟨hdir, _⟩ | ⟨hdir, _⟩ <;> rw [hdir] <;> omega

theorem between_eq_of_addTo? (hs : Reachable s) (hsign : s.Along 1 ∨ s.Along (-1))
    (hdays : s.days.toInt.natAbs ≤ 27) (h : s.addTo? a = some b) : between a b = s := by
  have halong := along_direction hs.normal hsign h
  obtain ⟨anchor, hfar, hrest⟩ := exists_isFarthest_of_addTo? hs.normal halong hdays h
  have hgreedy : IsGreedy a b s :=
    isGreedy_of_isFarthest hfar halong hrest hs.normal (Nat.le_trans hdays (by decide))
  exact (between_isGreedy a b).eq hgreedy

/-- From March 31 back over February 28, and then one nanosecond short of another 28 days. -/
theorem between_eq_of_addTo?_march :
    let cs : List Change :=
      [.set .months (-1), .set .days (-27), .set .hours (-23), .set .minutes (-59),
        .set .seconds (-59), .set .nanoseconds (-999999999)]
    let s := zero.changes cs
    let a : Instant := ⟨1617148800 * 1000000000, by omega, by omega⟩
    let b : Instant := ⟨1612051200 * 1000000000 + 1, by omega, by omega⟩
    Reachable s ∧ s.Along (-1) ∧ s.days.toInt.natAbs ≤ 27 ∧ s.addTo? a = some b
      ∧ between a b = s := by
  intro cs s a b
  have hs : Reachable s := Reachable.zero.changes cs
  have hsd : s.Along (-1) := by
    constructor <;> decide +kernel
  have hdays : s.days.toInt.natAbs ≤ 27 := by decide +kernel
  have h : s.addTo? a = some b := by decide +kernel
  exact ⟨hs, hsd, hdays, h, between_eq_of_addTo? hs (.inr hsd) hdays h⟩

-- With 28 days the span from January 31 reaches the next month, which takes their place.
example :
    let a : Instant := ⟨1612051200 * 1000000000, by omega, by omega⟩
    let b : Instant := ⟨1614470400 * 1000000000, by omega, by omega⟩
    (ofParts 0 0 28 0 0 0).addTo? a = some b ∧ between a b = ofParts 0 1 0 0 0 0 := by
  decide +kernel

end Span

end TimeMarkup
