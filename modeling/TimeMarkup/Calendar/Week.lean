import TimeMarkup.Calendar.Date

/-!
This module contains the week dates of the calendar. Weeks start on a Monday and belong to the year
that holds most of their days.
-/

namespace TimeMarkup

/-- The day of the week, with Monday as 0. 1970-01-01 is a Thursday. -/
def weekday (dayNumber : Int) : Int :=
  (dayNumber + 3) % 7

/-- The Monday of the first week of `year`, the one that holds January 4. -/
def firstMonday (year : Int) : Int :=
  let fourth := monthStart (monthIndex year 1) + 3
  fourth - weekday fourth

def weeksIn (year : Int) : Int :=
  (firstMonday (year + 1) - firstMonday year) / 7

/-- The date of a week date, if `year` has that week. Monday is day 1 of its week. -/
def Date.ofWeek? (year week day : Int) : Option Date :=
  if (1 ≤ week ∧ week ≤ weeksIn year) ∧ 1 ≤ day ∧ day ≤ 7 then
    some (ofDayNumber (firstMonday year + 7 * (week - 1) + (day - 1)))
  else
    none

end TimeMarkup
