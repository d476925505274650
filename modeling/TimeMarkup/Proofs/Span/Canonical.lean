import TimeMarkup.Proofs.Span.Carry

/-!
This module contains the spans whose amounts are determined by their two totals, those of carried
amounts with one sign. The main statements say that equal totals make equal spans, and that smaller
totals make smaller spans, compared from the years to the nanoseconds.
-/

namespace TimeMarkup

/-- `r` is smaller than the unit of size `b` and has the sign of the number `q` of such units. -/
structure IsRemainder (b q r : Int) : Prop where
  sign : (0 ≤ q ∧ 0 ≤ r) ∨ (q ≤ 0 ∧ r ≤ 0)
  lt : r.natAbs < b

namespace IsRemainder

variable {b q r q' r' : Int}

theorem neg (h : IsRemainder b q r) : IsRemainder b (-q) (-r) where
  sign := by
    have := h.sign
    omega
  lt := by
    rw [Int.natAbs_neg]
    exact h.lt

theorem lt_or_eq_of_le (hr : IsRemainder b q r) (hr' : IsRemainder b q' r')
    (h : b * q + r ≤ b * q' + r') : q < q' ∨ (q = q' ∧ r ≤ r') := by
  have ⟨hsign, hlt⟩ := hr
  have ⟨hsign', hlt'⟩ := hr'
  rcases Int.lt_trichotomy q q' with hq | rfl | hq
  · exact Or.inl hq
  · right
    omega
  · -- A unit more on the left can only be made up for by remainders of opposite signs.
    have hunit : b * (q' + 1) ≤ b * q := Int.mul_le_mul_of_nonneg_left (by omega) (by omega)
    rw [Int.mul_add] at hunit
    omega

theorem eq_of_eq (hr : IsRemainder b q r) (hr' : IsRemainder b q' r')
    (h : b * q + r = b * q' + r') : q = q' ∧ r = r' := by
  have hle := hr.lt_or_eq_of_le hr' (by omega)
  have hge := hr'.lt_or_eq_of_le hr (by omega)
  omega

theorem cons_cons_lt (hr : IsRemainder b q r) (hr' : IsRemainder b q' r') {l l' : List Int}
    (h : (b * q + r) :: l < (b * q' + r') :: l') : q :: r :: l < q' :: r' :: l' := by
  rw [List.cons_lt_cons_iff] at h
  rw [List.cons_lt_cons_iff]
  rw [List.cons_lt_cons_iff]
  rcases h with hlt | ⟨heq, htail⟩
  · rcases hr.lt_or_eq_of_le hr' (by omega) with hq | ⟨rfl, _⟩
    · exact Or.inl hq
    · exact Or.inr ⟨rfl, Or.inl (by omega)⟩
  · have ⟨hq, hr⟩ := hr.eq_of_eq hr' heq
    exact Or.inr ⟨hq, Or.inr ⟨hr, htail⟩⟩

end IsRemainder

namespace Span

def amounts (s : Span) : List Int :=
  [s.years.toInt, s.months.toInt, s.days.toInt, s.hours.toInt, s.minutes.toInt, s.seconds.toInt,
    s.nanoseconds.toInt]

def totalHours (s : Span) : Int :=
  24 * s.days.toInt + s.hours.toInt

def totalMinutes (s : Span) : Int :=
  60 * s.totalHours + s.minutes.toInt

def totalSeconds (s : Span) : Int :=
  60 * s.totalMinutes + s.seconds.toInt

theorem fixedNanos_eq_totalSeconds (s : Span) :
    s.fixedNanos = 1000000000 * s.totalSeconds + s.nanoseconds.toInt := by
  unfold fixedNanos totalSeconds totalMinutes totalHours
  unfold nanosPerDay nanosPerHour nanosPerMinute nanosPerSecond
  omega

structure Canonical (s : Span) : Prop where
  months : IsRemainder 12 s.years.toInt s.months.toInt
  hours : IsRemainder 24 s.days.toInt s.hours.toInt
  minutes : IsRemainder 60 s.totalHours s.minutes.toInt
  seconds : IsRemainder 60 s.totalMinutes s.seconds.toInt
  nanoseconds : IsRemainder 1000000000 s.totalSeconds s.nanoseconds.toInt

variable {s t : Span}

theorem canonical_of_along (hs : s.Normal) (hsd : s.Along 1 ∨ s.Along (-1)) : s.Canonical := by
  have ⟨hmonths, hhours, hminutes, hseconds, hnanos⟩ := hs
  have hsign : (0 ≤ s.years.toInt ∧ 0 ≤ s.months.toInt ∧ 0 ≤ s.days.toInt ∧ 0 ≤ s.hours.toInt
        ∧ 0 ≤ s.minutes.toInt ∧ 0 ≤ s.seconds.toInt ∧ 0 ≤ s.nanoseconds.toInt)
      ∨ (s.years.toInt ≤ 0 ∧ s.months.toInt ≤ 0 ∧ s.days.toInt ≤ 0 ∧ s.hours.toInt ≤ 0
        ∧ s.minutes.toInt ≤ 0 ∧ s.seconds.toInt ≤ 0 ∧ s.nanoseconds.toInt ≤ 0) := by
    rcases hsd with ⟨_, _, _, _, _, _, _⟩ | ⟨_, _, _, _, _, _, _⟩ <;> omega
  constructor
  case months => exact ⟨by omega, by omega⟩
  case hours => exact ⟨by omega, by omega⟩
  case minutes => exact ⟨by unfold totalHours; omega, by omega⟩
  case seconds => exact ⟨by unfold totalMinutes totalHours; omega, by omega⟩
  case nanoseconds => exact ⟨by unfold totalSeconds totalMinutes totalHours; omega, by omega⟩

namespace Canonical

-- The smallest unit is what its total leaves over, and the next one goes on with the quotient.
theorem eq_of_totals_eq (hs : s.Canonical) (ht : t.Canonical)
    (hmonths : s.totalMonths = t.totalMonths) (hfixed : s.fixedNanos = t.fixedNanos) : s = t := by
  rw [fixedNanos_eq_totalSeconds, fixedNanos_eq_totalSeconds] at hfixed
  obtain ⟨hseconds, hnano⟩ := hs.nanoseconds.eq_of_eq ht.nanoseconds hfixed
  obtain ⟨hminutes, hsec⟩ := hs.seconds.eq_of_eq ht.seconds hseconds
  obtain ⟨hhours, hmin⟩ := hs.minutes.eq_of_eq ht.minutes hminutes
  obtain ⟨hday, hhour⟩ := hs.hours.eq_of_eq ht.hours hhours
  obtain ⟨hyear, hmonth⟩ := hs.months.eq_of_eq ht.months hmonths
  exact eq_of_toInt_eq hyear hmonth hday hhour hmin hsec hnano

theorem drop_amounts_lt (hs : s.Canonical) (ht : t.Canonical) (h : s.fixedNanos < t.fixedNanos) :
    s.amounts.drop 2 < t.amounts.drop 2 := by
  have hnanos : [s.fixedNanos] < [t.fixedNanos] := List.cons_lt_cons_iff.mpr (Or.inl h)
  rw [fixedNanos_eq_totalSeconds, fixedNanos_eq_totalSeconds] at hnanos
  have hseconds := hs.nanoseconds.cons_cons_lt ht.nanoseconds hnanos
  have hminutes := hs.seconds.cons_cons_lt ht.seconds hseconds
  have hhours := hs.minutes.cons_cons_lt ht.minutes hminutes
  exact hs.hours.cons_cons_lt ht.hours hhours

theorem amounts_lt (hs : s.Canonical) (ht : t.Canonical)
    (h : s.totalMonths < t.totalMonths
      ∨ (s.totalMonths = t.totalMonths ∧ s.fixedNanos < t.fixedNanos)) :
    s.amounts < t.amounts := by
  apply hs.months.cons_cons_lt ht.months
  rw [List.cons_lt_cons_iff]
  rcases h with hmonths | ⟨hmonths, hfixed⟩
  · exact Or.inl hmonths
  · exact Or.inr ⟨hmonths, hs.drop_amounts_lt ht hfixed⟩

end Canonical

end Span

end TimeMarkup
