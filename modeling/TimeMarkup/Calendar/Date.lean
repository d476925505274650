import TimeMarkup.Calendar.Month

/-!
This module contains the dates of the proleptic Gregorian calendar and their shift by whole months.
The main statements say that dates and day numbers correspond one to one.
-/

namespace TimeMarkup

/-- A date of the proleptic Gregorian calendar, in any year. -/
structure Date where
  year : Int
  month : Int
  day : Int
  one_le_month : 1 ≤ month
  month_le : month ≤ 12
  one_le_day : 1 ≤ day
  day_le : day ≤ daysInMonth year month
deriving DecidableEq

namespace Date

def ofFields? (year month day : Int) : Option Date :=
  if h : (1 ≤ month ∧ month ≤ 12) ∧ 1 ≤ day ∧ day ≤ daysInMonth year month then
    some ⟨year, month, day, h.1.1, h.1.2, h.2.1, h.2.2⟩
  else
    none

theorem ofFields?_eq_some_iff {year month day : Int} {d : Date} :
    ofFields? year month day = some d ↔ d.year = year ∧ d.month = month ∧ d.day = day := by
  unfold ofFields?
  constructor
  · intro h
    split at h
    · simp at h
      simp [← h]
    · simp at h
  · rintro ⟨rfl, rfl, rfl⟩
    rw [dif_pos ⟨⟨d.one_le_month, d.month_le⟩, d.one_le_day, d.day_le⟩]

def index (d : Date) : Int :=
  monthIndex d.year d.month

def ofMonth (index day : Int) (h₁ : 1 ≤ day) (h₂ : day ≤ monthLength index) : Date :=
  ⟨index / 12, index % 12 + 1, day, by omega, by omega, h₁, h₂⟩

theorem monthLength_index (d : Date) : monthLength d.index = daysInMonth d.year d.month := by
  have h₁ := d.one_le_month
  have h₂ := d.month_le
  have h₃ : (12 * d.year + (d.month - 1)) / 12 = d.year := by omega
  have h₄ : (12 * d.year + (d.month - 1)) % 12 + 1 = d.month := by omega
  simp only [monthLength, index, monthIndex, h₃, h₄]

theorem ofMonth_index_day (d : Date) :
    ofMonth d.index d.day d.one_le_day (monthLength_index d ▸ d.day_le) = d := by
  have h₁ := d.one_le_month
  have h₂ := d.month_le
  have h₃ : (12 * d.year + (d.month - 1)) / 12 = d.year := by omega
  have h₄ : (12 * d.year + (d.month - 1)) % 12 + 1 = d.month := by omega
  obtain ⟨year, month, day⟩ := d
  simp only [ofMonth, index, monthIndex, mk.injEq, and_true]
  exact ⟨h₃, h₄⟩

@[simp]
theorem index_ofMonth {index day : Int} {h₁ h₂} : (ofMonth index day h₁ h₂).index = index := by
  simp only [ofMonth, Date.index, monthIndex]
  omega

@[simp]
theorem day_ofMonth {index day : Int} {h₁ h₂} : (ofMonth index day h₁ h₂).day = day := rfl

/-- The number of days from 1970-01-01 to `d`. -/
def dayNumber (d : Date) : Int :=
  monthStart d.index + (d.day - 1)

def ofDayNumber (n : Int) : Date :=
  ofMonth (monthOf n) (n - monthStart (monthOf n) + 1)
    (by have := monthStart_monthOf_le n; omega)
    (by
      have h₁ := lt_monthStart_monthOf_add_one n
      have h₂ := monthStart_add_one (monthOf n)
      omega)

@[simp]
theorem dayNumber_ofDayNumber (n : Int) : (ofDayNumber n).dayNumber = n := by
  simp only [dayNumber, ofDayNumber, index_ofMonth, day_ofMonth]
  omega

theorem monthOf_dayNumber (d : Date) : monthOf d.dayNumber = d.index := by
  have h₁ := d.one_le_day
  have h₂ := d.day_le
  have h₃ := monthLength_index d
  have h₄ := monthStart_add_one d.index
  apply monthOf_eq <;> unfold dayNumber <;> omega

@[simp]
theorem ofDayNumber_dayNumber (d : Date) : ofDayNumber d.dayNumber = d := by
  conv => rhs; rw [← ofMonth_index_day d]
  unfold ofDayNumber
  congr 1
  · exact monthOf_dayNumber d
  · rw [monthOf_dayNumber d, dayNumber]
    omega

/-- Move `d` by whole months. A day that the month reached does not have becomes its last day. -/
def addMonths (d : Date) (n : Int) : Date :=
  ofMonth (d.index + n) (min d.day (monthLength (d.index + n)))
    (by
      have h₁ := d.one_le_day
      have h₂ := le_daysInMonth ((d.index + n) / 12) ((d.index + n) % 12 + 1)
      unfold monthLength
      omega)
    (by omega)

@[simp]
theorem index_addMonths (d : Date) (n : Int) : (d.addMonths n).index = d.index + n := by
  simp [addMonths]

theorem day_addMonths (d : Date) (n : Int) :
    (d.addMonths n).day = min d.day (monthLength (d.index + n)) := rfl

end Date

end TimeMarkup
