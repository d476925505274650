import TimeMarkup.Calendar.Week
import TimeMarkup.Proofs.Instant.Shift

/-!
This module contains the week dates of days. The main statement says that each date is the one of
its week year, its week and its day of the week.
-/

namespace TimeMarkup

theorem monthStart_year_le_dayNumber (d : Date) :
    monthStart (monthIndex d.year 1) ≤ d.dayNumber := by
  have hmonth := d.one_le_month
  have hstart := d.monthStart_index_le_dayNumber
  have hyear : monthStart (monthIndex d.year 1) ≤ monthStart d.index := by
    apply monthStart_le
    unfold Date.index monthIndex
    omega
  omega

theorem dayNumber_lt_monthStart_year_add_one (d : Date) :
    d.dayNumber < monthStart (monthIndex (d.year + 1) 1) := by
  have hmonth := d.month_le
  have hend := d.dayNumber_lt_monthStart_index_add_one
  have hyear : monthStart (d.index + 1) ≤ monthStart (monthIndex (d.year + 1) 1) := by
    apply monthStart_le
    unfold Date.index monthIndex
    omega
  omega

theorem monthStart_year_add_one_le (year : Int) :
    monthStart (monthIndex (year + 1) 1) ≤ monthStart (monthIndex year 1) + 366 := by
  have hjanuary (year : Int) : monthStart (monthIndex year 1) = marchStart (year - 1) + 306 := by
    rw [show monthIndex year 1 = 12 * (year - 1) + 10 + 2 by unfold monthIndex; omega]
    rw [monthStart_march (by omega)]
    omega
  rw [hjanuary, hjanuary]
  rw [show year + 1 - 1 = year - 1 + 1 by omega]
  rw [marchStart_add_one]
  split <;> omega

namespace Date

def thursdayOfWeek (d : Date) : Date :=
  ofDayNumber (d.dayNumber - weekday d.dayNumber + 3)

def weekYear (d : Date) : Int :=
  d.thursdayOfWeek.year

/-- The number of the week of `d`, which is how many Thursdays of its year have come. -/
def weekNumber (d : Date) : Int :=
  (d.thursdayOfWeek.dayNumber - monthStart (monthIndex d.weekYear 1)) / 7 + 1

def dayOfWeek (d : Date) : Int :=
  weekday d.dayNumber + 1

theorem dayOfWeek_bounds (d : Date) : 1 ≤ d.dayOfWeek ∧ d.dayOfWeek ≤ 7 := by
  unfold dayOfWeek weekday
  omega

theorem thursdayOfWeek_bounds (d : Date) :
    monthStart (monthIndex d.weekYear 1) ≤ d.thursdayOfWeek.dayNumber
      ∧ d.thursdayOfWeek.dayNumber < monthStart (monthIndex (d.weekYear + 1) 1) := by
  constructor
  · apply monthStart_year_le_dayNumber
  · apply dayNumber_lt_monthStart_year_add_one

theorem dayNumber_thursdayOfWeek (d : Date) :
    d.thursdayOfWeek.dayNumber = d.dayNumber - weekday d.dayNumber + 3 := by
  unfold thursdayOfWeek
  rw [dayNumber_ofDayNumber]

-- The first Thursday of a year is at most six days into it, so counting in sevens from either meets
-- the same weeks.
theorem firstMonday_add_weekNumber (d : Date) :
    firstMonday d.weekYear + 7 * (d.weekNumber - 1) = d.dayNumber - weekday d.dayNumber := by
  have hbounds := d.thursdayOfWeek_bounds
  unfold weekNumber
  rw [dayNumber_thursdayOfWeek] at *
  simp only [firstMonday, weekday] at *
  omega

theorem weekNumber_bounds (d : Date) :
    1 ≤ d.weekNumber ∧ d.weekNumber ≤ weeksIn d.weekYear := by
  have hbounds := d.thursdayOfWeek_bounds
  have hmonday := d.firstMonday_add_weekNumber
  unfold weeksIn
  unfold weekNumber at *
  rw [dayNumber_thursdayOfWeek] at *
  simp only [firstMonday, weekday] at *
  omega

theorem weekNumber_le (d : Date) : d.weekNumber ≤ 53 := by
  have hbounds := d.thursdayOfWeek_bounds
  have hyear := monthStart_year_add_one_le d.weekYear
  unfold weekNumber
  omega

theorem ofWeek?_weekYear (d : Date) : ofWeek? d.weekYear d.weekNumber d.dayOfWeek = some d := by
  unfold ofWeek?
  rw [if_pos ⟨d.weekNumber_bounds, d.dayOfWeek_bounds⟩]
  rw [firstMonday_add_weekNumber]
  unfold dayOfWeek
  rw [show d.dayNumber - weekday d.dayNumber + (weekday d.dayNumber + 1 - 1) = d.dayNumber by omega]
  rw [ofDayNumber_dayNumber]

end Date

end TimeMarkup
