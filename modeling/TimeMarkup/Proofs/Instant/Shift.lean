import TimeMarkup.Instant.Basic

/-!
This module contains the order of month shifts. The main statements say that more months always lead
to a later instant, by 28 to 31 days for each month, and that a shift succeeds if and only if the
month reached lies in the range of instants.
-/

namespace TimeMarkup

namespace Date

theorem monthStart_index_le_dayNumber (d : Date) : monthStart d.index ≤ d.dayNumber := by
  have := d.one_le_day
  unfold dayNumber
  omega

theorem dayNumber_lt_monthStart_index_add_one (d : Date) :
    d.dayNumber < monthStart (d.index + 1) := by
  have h₁ := d.day_le
  have h₂ := monthLength_index d
  rw [monthStart_add_one]
  unfold dayNumber
  omega

theorem dayNumber_lt_of_index_lt {d e : Date} (h : d.index < e.index) :
    d.dayNumber < e.dayNumber := by
  have h₁ := dayNumber_lt_monthStart_index_add_one d
  have h₂ : monthStart (d.index + 1) ≤ monthStart e.index := by
    apply monthStart_le
    omega
  have h₃ := monthStart_index_le_dayNumber e
  omega

theorem eq_iff_index_day {d e : Date} : d = e ↔ d.index = e.index ∧ d.day = e.day := by
  constructor
  · rintro rfl
    exact ⟨rfl, rfl⟩
  · rintro ⟨hindex, hday⟩
    have hnumber : d.dayNumber = e.dayNumber := by
      unfold dayNumber
      rw [hindex, hday]
    rw [← ofDayNumber_dayNumber d]
    rw [hnumber]
    rw [ofDayNumber_dayNumber]

theorem addMonths_zero (d : Date) : d.addMonths 0 = d := by
  have h₁ := d.day_le
  have h₂ := monthLength_index d
  rw [eq_iff_index_day]
  rw [index_addMonths, day_addMonths]
  rw [Int.add_zero]
  omega

theorem dayNumber_addMonths_lt (d : Date) {m n : Int} (h : m < n) :
    (d.addMonths m).dayNumber < (d.addMonths n).dayNumber := by
  apply dayNumber_lt_of_index_lt
  rw [index_addMonths, index_addMonths]
  omega

theorem dayNumber_addMonths_add_one_bounds (d : Date) (n : Int) :
    (d.addMonths n).dayNumber + 28 ≤ (d.addMonths (n + 1)).dayNumber
      ∧ (d.addMonths (n + 1)).dayNumber ≤ (d.addMonths n).dayNumber + 31 := by
  have hstart := monthStart_add_one (d.index + n)
  have hshort : 28 ≤ monthLength (d.index + n) := le_daysInMonth _ _
  have hlong : monthLength (d.index + n) ≤ 31 := daysInMonth_le _ _
  have hshort' : 28 ≤ monthLength (d.index + n + 1) := le_daysInMonth _ _
  have hlong' : monthLength (d.index + n + 1) ≤ 31 := daysInMonth_le _ _
  unfold dayNumber
  rw [index_addMonths, index_addMonths, day_addMonths, day_addMonths]
  rw [show d.index + (n + 1) = d.index + n + 1 by omega]
  omega

end Date

namespace Instant

/--
The nanoseconds from the epoch to `i` moved by `n` months, also where that is no instant any more.
-/
def nanosAfterMonths (i : Instant) (n : Int) : Int :=
  nanosPerDay * (i.date.addMonths n).dayNumber + i.timeOfDay

theorem timeOfDay_bounds (i : Instant) : 0 ≤ i.timeOfDay ∧ i.timeOfDay < nanosPerDay := by
  unfold timeOfDay nanosPerDay
  omega

theorem nanos_eq_date_timeOfDay (i : Instant) :
    i.nanos = nanosPerDay * i.date.dayNumber + i.timeOfDay := by
  rw [date, timeOfDay]
  rw [Date.dayNumber_ofDayNumber]
  rw [Int.mul_ediv_add_emod]

@[simp]
theorem nanosAfterMonths_zero (i : Instant) : i.nanosAfterMonths 0 = i.nanos := by
  unfold nanosAfterMonths
  rw [Date.addMonths_zero]
  rw [← nanos_eq_date_timeOfDay]

theorem nanosAfterMonths_lt (i : Instant) {m n : Int} (h : m < n) :
    i.nanosAfterMonths m < i.nanosAfterMonths n := by
  have := Date.dayNumber_addMonths_lt i.date h
  unfold nanosAfterMonths nanosPerDay
  omega

theorem nanosAfterMonths_le (i : Instant) {m n : Int} (h : m ≤ n) :
    i.nanosAfterMonths m ≤ i.nanosAfterMonths n := by
  cases Int.lt_or_eq_of_le h with
  | inl h =>
    have := nanosAfterMonths_lt i h
    omega
  | inr h => exact Int.le_of_eq (congrArg i.nanosAfterMonths h)

theorem nanosAfterMonths_add_one_bounds (i : Instant) (n : Int) :
    i.nanosAfterMonths n + 28 * nanosPerDay ≤ i.nanosAfterMonths (n + 1)
      ∧ i.nanosAfterMonths (n + 1) ≤ i.nanosAfterMonths n + 31 * nanosPerDay := by
  have := Date.dayNumber_addMonths_add_one_bounds i.date n
  unfold nanosAfterMonths nanosPerDay
  omega

theorem nanosAfterMonths_lt_of_index_lt {i j : Instant} {n : Int}
    (h : i.date.index + n < j.date.index) : i.nanosAfterMonths n < j.nanos := by
  have hdate : (i.date.addMonths n).dayNumber < j.date.dayNumber := by
    apply Date.dayNumber_lt_of_index_lt
    rw [Date.index_addMonths]
    exact h
  have h₁ := timeOfDay_bounds i
  have h₂ := timeOfDay_bounds j
  rw [nanos_eq_date_timeOfDay j]
  unfold nanosAfterMonths
  unfold nanosPerDay at *
  omega

theorem lt_nanosAfterMonths_of_lt_index {i j : Instant} {n : Int}
    (h : j.date.index < i.date.index + n) : j.nanos < i.nanosAfterMonths n := by
  have hdate : j.date.dayNumber < (i.date.addMonths n).dayNumber := by
    apply Date.dayNumber_lt_of_index_lt
    rw [Date.index_addMonths]
    exact h
  have h₁ := timeOfDay_bounds i
  have h₂ := timeOfDay_bounds j
  rw [nanos_eq_date_timeOfDay j]
  unfold nanosAfterMonths
  unfold nanosPerDay at *
  omega

theorem index_le_of_le {i j : Instant} (h : i ≤ j) : i.date.index ≤ j.date.index := by
  rw [le_def] at h
  by_cases hlt : j.date.index < i.date.index
  · have := nanosAfterMonths_lt_of_index_lt (i := j) (j := i) (n := 0) (by omega)
    rw [nanosAfterMonths_zero] at this
    omega
  · omega

theorem monthStart_first : monthStart (-3145716) = -96465292 := by
  decide +kernel

theorem monthStart_last : monthStart 3145716 = 95026237 := by
  decide +kernel

theorem nanosAfterMonths_inRange_iff (i : Instant) (n : Int) :
    (-8334601228800 * 1000000000 ≤ i.nanosAfterMonths n
        ∧ i.nanosAfterMonths n ≤ 8210266876799 * 1000000000 + 999999999)
      ↔ -3145716 ≤ i.date.index + n ∧ i.date.index + n ≤ 3145715 := by
  have htime := timeOfDay_bounds i
  have hfirst := monthStart_first
  have hlast := monthStart_last
  have hlow := Date.monthStart_index_le_dayNumber (i.date.addMonths n)
  have hhigh := Date.dayNumber_lt_monthStart_index_add_one (i.date.addMonths n)
  rw [Date.index_addMonths] at hlow hhigh
  unfold nanosAfterMonths
  unfold nanosPerDay at *
  -- The range begins with a January and ends with a December, so only the month reached matters.
  constructor
  · intro h
    have h₁ : ¬ i.date.index + n < -3145716 := by
      intro hlt
      have : monthStart (i.date.index + n + 1) ≤ monthStart (-3145716) := by
        apply monthStart_le
        omega
      omega
    have h₂ : ¬ 3145715 < i.date.index + n := by
      intro hlt
      have : monthStart 3145716 ≤ monthStart (i.date.index + n) := by
        apply monthStart_le
        omega
      omega
    omega
  · intro h
    have h₁ : monthStart (-3145716) ≤ monthStart (i.date.index + n) := by
      apply monthStart_le
      omega
    have h₂ : monthStart (i.date.index + n + 1) ≤ monthStart 3145716 := by
      apply monthStart_le
      omega
    omega

theorem index_bounds (i : Instant) : -3145716 ≤ i.date.index ∧ i.date.index ≤ 3145715 := by
  have h := (nanosAfterMonths_inRange_iff i 0).mp
  rw [nanosAfterMonths_zero] at h
  have := h ⟨i.min_le, i.le_max⟩
  omega

theorem natAbs_le_of_nanos_eq {i j : Instant} {n : Int} (h : j.nanos = i.nanosAfterMonths n) :
    n.natAbs ≤ 6291431 := by
  have hreached := (nanosAfterMonths_inRange_iff i n).mp
  rw [← h] at hreached
  have := hreached ⟨j.min_le, j.le_max⟩
  have := index_bounds i
  omega

-- A number of months beyond 32 bits leads out of the range anyway.
theorem addMonths?_eq_some_iff {i j : Instant} {n : Int} :
    i.addMonths? n = some j ↔ j.nanos = i.nanosAfterMonths n := by
  unfold addMonths? onDate?
  split
  · rw [ofNanos?_eq_some_iff]
    rfl
  · next hlarge =>
    constructor
    · intro h
      cases h
    · intro h
      have := natAbs_le_of_nanos_eq h
      omega

theorem addMonths?_zero (i : Instant) : i.addMonths? 0 = some i := by
  rw [addMonths?_eq_some_iff]
  rw [nanosAfterMonths_zero]

theorem date_of_addMonths? {i j : Instant} {n : Int} (h : i.addMonths? n = some j) :
    j.date = i.date.addMonths n := by
  rw [addMonths?_eq_some_iff] at h
  have htime := timeOfDay_bounds i
  have hday : j.nanos / nanosPerDay = (i.date.addMonths n).dayNumber := by
    unfold nanosAfterMonths at h
    unfold nanosPerDay at *
    omega
  rw [date]
  rw [hday]
  rw [Date.ofDayNumber_dayNumber]

theorem timeOfDay_of_addMonths? {i j : Instant} {n : Int} (h : i.addMonths? n = some j) :
    j.timeOfDay = i.timeOfDay := by
  rw [addMonths?_eq_some_iff] at h
  have := timeOfDay_bounds i
  unfold nanosAfterMonths at h
  unfold timeOfDay at *
  unfold nanosPerDay at *
  omega

theorem addMonths?_eq_some_iff_date {i j : Instant} {n : Int} :
    i.addMonths? n = some j ↔ j.date = i.date.addMonths n ∧ j.timeOfDay = i.timeOfDay := by
  constructor
  · intro h
    exact ⟨date_of_addMonths? h, timeOfDay_of_addMonths? h⟩
  · rintro ⟨hdate, htime⟩
    rw [addMonths?_eq_some_iff]
    rw [nanos_eq_date_timeOfDay j]
    rw [hdate, htime]
    rfl

theorem addMonths?_isSome_iff (i : Instant) (n : Int) :
    (i.addMonths? n).isSome ↔ -3145716 ≤ i.date.index + n ∧ i.date.index + n ≤ 3145715 := by
  rw [← nanosAfterMonths_inRange_iff]
  rw [Option.isSome_iff_exists]
  constructor
  · rintro ⟨j, hj⟩
    rw [addMonths?_eq_some_iff] at hj
    rw [← hj]
    exact ⟨j.min_le, j.le_max⟩
  · intro h
    exists ⟨i.nanosAfterMonths n, h.1, h.2⟩
    rw [addMonths?_eq_some_iff]

theorem exists_nanos_eq_of_between {a b : Instant} {n : Int}
    (h : (a.nanos ≤ n ∧ n ≤ b.nanos) ∨ (b.nanos ≤ n ∧ n ≤ a.nanos)) :
    ∃ i : Instant, i.nanos = n := by
  have := a.min_le
  have := a.le_max
  have := b.min_le
  have := b.le_max
  exists ⟨n, by omega, by omega⟩

theorem addMonths?_isSome_of_nanosAfterMonths {i j : Instant} {n : Int}
    (h : j.nanos = i.nanosAfterMonths n) : (i.addMonths? n).isSome := by
  rw [addMonths?_eq_some_iff.mpr h]
  rfl

end Instant

end TimeMarkup
