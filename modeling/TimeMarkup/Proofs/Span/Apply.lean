import TimeMarkup.Proofs.Instant.Shift
import TimeMarkup.Proofs.Span.Carry

/-!
This module contains what it means to apply a span. The main statement says that a span with carried
amounts leads to the shift by its months plus its fixed length, as integers, and that it fails only
where one of the two leaves the range of instants.
-/

namespace TimeMarkup

namespace Elapsed

theorem ofNanos?_eq_some {n : Int} (h₁ : -9223372036854775807000000 ≤ n)
    (h₂ : n ≤ 9223372036854775807000000) : ofNanos? n = some ⟨n, h₁, h₂⟩ := by
  rw [ofNanos?_eq_some_iff]

end Elapsed

namespace Instant

theorem add?_eq_some_iff {i j : Instant} {e : Elapsed} :
    i.add? e = some j ↔ j.nanos = i.nanos + e.nanos := by
  unfold add?
  rw [ofNanos?_eq_some_iff]

end Instant

namespace Span

theorem nanos_eq_fixedNanos {s : Span} {e : Elapsed} (h : s.fixedPart? = some e) :
    e.nanos = s.fixedNanos := by
  simp only [fixedPart?, Option.bind_eq_bind, Option.bind_eq_some_iff] at h
  obtain ⟨days, hdays, hours, hhours, e₁, he₁, minutes, hminutes, e₂, he₂, seconds, hseconds, e₃,
    he₃, he⟩ := h
  unfold Elapsed.ofDays? at hdays
  unfold Elapsed.ofHours? at hhours
  unfold Elapsed.ofMinutes? at hminutes
  unfold Elapsed.ofSeconds? at hseconds
  unfold Elapsed.add? at he₁ he₂ he₃ he
  rw [Elapsed.ofNanos?_eq_some_iff] at hdays hhours hminutes hseconds he₁ he₂ he₃ he
  unfold fixedNanos
  simp only [Elapsed.ofNanoseconds] at he
  omega

-- Hours and below are less than a day in sum, so no partial sum is much longer than the whole.
theorem fixedPart?_isSome {s : Span} (hs : s.Normal)
    (h : s.fixedNanos.natAbs ≤ 9000000000000000000000000) : s.fixedPart?.isSome := by
  have hhours := bounds_of_natAbs_le hs.hours
  have hminutes := bounds_of_natAbs_le hs.minutes
  have hseconds := bounds_of_natAbs_le hs.seconds
  have hnanos := bounds_of_natAbs_le hs.nanoseconds
  have hwhole := bounds_of_natAbs_le h
  unfold fixedNanos nanosPerDay nanosPerHour nanosPerMinute nanosPerSecond at hwhole
  unfold fixedPart? Elapsed.ofDays? Elapsed.ofHours? Elapsed.ofMinutes? Elapsed.ofSeconds?
  unfold nanosPerDay nanosPerHour nanosPerMinute nanosPerSecond Elapsed.add?
  clear h
  rw [Elapsed.ofNanos?_eq_some (by omega) (by omega)]
  rw [Elapsed.ofNanos?_eq_some (by omega) (by omega)]
  rw [Elapsed.ofNanos?_eq_some (by omega) (by omega)]
  rw [Elapsed.ofNanos?_eq_some (by omega) (by omega)]
  simp only [Option.bind_eq_bind, Option.bind_some]
  rw [Elapsed.ofNanos?_eq_some (by omega) (by omega)]
  simp only [Option.bind_some]
  rw [Elapsed.ofNanos?_eq_some (by omega) (by omega)]
  simp only [Option.bind_some]
  rw [Elapsed.ofNanos?_eq_some (by omega) (by omega)]
  simp only [Option.bind_some, Elapsed.ofNanoseconds]
  rw [Elapsed.ofNanos?_eq_some (by omega) (by omega)]
  rfl

theorem monthCount?_eq_some_iff {s : Span} {n : Amount} :
    s.monthCount? = some n
      ↔ ∃ ofYears : Amount, ofYears.toInt = 12 * s.years.toInt
          ∧ n.toInt = ofYears.toInt + s.months.toInt := by
  simp only [monthCount?, Option.bind_eq_bind, Option.bind_eq_some_iff]
  simp only [Amount.scale?_eq_some_iff, Amount.add?_eq_some_iff]

theorem toInt_of_monthCount? {s : Span} {n : Amount} (h : s.monthCount? = some n) :
    n.toInt = s.totalMonths := by
  obtain ⟨ofYears, hyears, hn⟩ := monthCount?_eq_some_iff.mp h
  rw [hn]
  rw [hyears]
  rfl

-- The years alone make up less than a year more or less than both together.
theorem exists_monthCount? {s : Span} (hs : s.Normal) (h : s.totalMonths.natAbs ≤ 6291431) :
    ∃ n, s.monthCount? = some n := by
  have hmonths := bounds_of_natAbs_le hs.months
  have hwhole := bounds_of_natAbs_le h
  unfold totalMonths at hwhole
  have hyears : (Amount.clamp (12 * s.years.toInt)).toInt = 12 * s.years.toInt := by
    apply Amount.clamp_toInt_of_le <;> omega
  have htotal : (Amount.clamp s.totalMonths).toInt = s.totalMonths := by
    apply Amount.clamp_toInt_of_le <;> unfold totalMonths <;> omega
  exists Amount.clamp s.totalMonths
  rw [monthCount?_eq_some_iff]
  exists Amount.clamp (12 * s.years.toInt)
  constructor
  · exact hyears
  · rw [htotal]
    rw [hyears]
    rfl

theorem addTo?_eq_some_iff_steps {s : Span} {a b : Instant} (hs : s.Normal) :
    s.addTo? a = some b
      ↔ ∃ shifted rest, a.addMonths? s.totalMonths = some shifted
          ∧ s.fixedPart? = some rest ∧ shifted.add? rest = some b := by
  simp only [addTo?, Option.bind_eq_bind, Option.bind_eq_some_iff]
  constructor
  · rintro ⟨n, hn, shifted, hshifted, rest, hrest, hb⟩
    rw [toInt_of_monthCount? hn] at hshifted
    exact ⟨shifted, rest, hshifted, hrest, hb⟩
  · rintro ⟨shifted, rest, hshifted, hrest, hb⟩
    have hreached := Instant.addMonths?_eq_some_iff.mp hshifted
    obtain ⟨n, hn⟩ := exists_monthCount? hs (Instant.natAbs_le_of_nanos_eq hreached)
    rw [← toInt_of_monthCount? hn] at hshifted
    exact ⟨n, hn, shifted, hshifted, rest, hrest, hb⟩

theorem addTo?_eq_some_iff {s : Span} {a b : Instant} (hs : s.Normal) :
    s.addTo? a = some b
      ↔ (a.addMonths? s.totalMonths).isSome
          ∧ b.nanos = a.nanosAfterMonths s.totalMonths + s.fixedNanos := by
  rw [addTo?_eq_some_iff_steps hs]
  constructor
  · rintro ⟨shifted, rest, hshifted, hrest, hb⟩
    have hrest := nanos_eq_fixedNanos hrest
    rw [Instant.add?_eq_some_iff] at hb
    rw [hshifted]
    rw [Instant.addMonths?_eq_some_iff] at hshifted
    constructor
    · rfl
    · omega
  · rintro ⟨hsome, hb⟩
    obtain ⟨shifted, hshifted⟩ := Option.isSome_iff_exists.mp hsome
    have hnanos := Instant.addMonths?_eq_some_iff.mp hshifted
    -- Both ends are instants, so the fixed part cannot be longer than the range.
    have hsmall : s.fixedNanos.natAbs ≤ 9000000000000000000000000 := by
      have := b.min_le
      have := b.le_max
      have := shifted.min_le
      have := shifted.le_max
      omega
    obtain ⟨rest, hrest⟩ := Option.isSome_iff_exists.mp (fixedPart?_isSome hs hsmall)
    have hlength := nanos_eq_fixedNanos hrest
    refine ⟨shifted, rest, hshifted, hrest, ?_⟩
    rw [Instant.add?_eq_some_iff]
    omega

end Span

end TimeMarkup
