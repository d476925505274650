import TimeMarkup.Proofs.Span.Carry

/-!
This module contains the negation and the absolute value of spans. The main statements say that both
multiply the months and the fixed length of a span by a sign, as long as no amount is the least one.
-/

namespace TimeMarkup

namespace Span

structure IsMultiple (d : Int) (s t : Span) : Prop where
  years : t.years.toInt = d * s.years.toInt
  months : t.months.toInt = d * s.months.toInt
  days : t.days.toInt = d * s.days.toInt
  hours : t.hours.toInt = d * s.hours.toInt
  minutes : t.minutes.toInt = d * s.minutes.toInt
  seconds : t.seconds.toInt = d * s.seconds.toInt
  nanoseconds : t.nanoseconds.toInt = d * s.nanoseconds.toInt

structure Moderate (s : Span) : Prop where
  years : s.years.toInt.natAbs ≤ 1000000000000
  days : s.days.toInt.natAbs ≤ 1000000000000

theorem negClamped_toInt_of_natAbs_le {a : Amount} (h : a.toInt.natAbs ≤ 1000000000000) :
    a.negClamped.toInt = -1 * a.toInt := by
  rw [Amount.negClamped_toInt]
  omega

theorem absClamped_toInt_of_natAbs_le {d : Int} {a : Amount} (hd : d = 1 ∨ d = -1)
    (hsign : 0 ≤ d * a.toInt) (h : a.toInt.natAbs ≤ 1000000000000) :
    a.absClamped.toInt = d * a.toInt := by
  rw [Amount.absClamped_toInt]
  rcases hd with rfl | rfl <;> omega

theorem neg_isMultiple {s : Span} (hs : s.Normal) (hm : s.Moderate) : IsMultiple (-1) s (-s) := by
  have ⟨hmonths, hhours, hminutes, hseconds, hnanos⟩ := hs
  constructor
  · exact negClamped_toInt_of_natAbs_le hm.years
  · exact negClamped_toInt_of_natAbs_le (by omega)
  · exact negClamped_toInt_of_natAbs_le hm.days
  · exact negClamped_toInt_of_natAbs_le (by omega)
  · exact negClamped_toInt_of_natAbs_le (by omega)
  · exact negClamped_toInt_of_natAbs_le (by omega)
  · exact negClamped_toInt_of_natAbs_le (by omega)

theorem abs_isMultiple {d : Int} {s : Span} (hd : d = 1 ∨ d = -1) (hs : s.Normal)
    (hm : s.Moderate) (hsd : s.Along d) : IsMultiple d s s.abs := by
  have ⟨hmonths, hhours, hminutes, hseconds, hnanos⟩ := hs
  constructor
  · exact absClamped_toInt_of_natAbs_le hd hsd.years hm.years
  · exact absClamped_toInt_of_natAbs_le hd hsd.months (by omega)
  · exact absClamped_toInt_of_natAbs_le hd hsd.days hm.days
  · exact absClamped_toInt_of_natAbs_le hd hsd.hours (by omega)
  · exact absClamped_toInt_of_natAbs_le hd hsd.minutes (by omega)
  · exact absClamped_toInt_of_natAbs_le hd hsd.seconds (by omega)
  · exact absClamped_toInt_of_natAbs_le hd hsd.nanoseconds (by omega)

theorem isMultiple_one (s : Span) : IsMultiple 1 s s := by
  constructor <;> omega

namespace IsMultiple

variable {d : Int} {s t : Span}

theorem totalMonths (h : IsMultiple d s t) (hd : d = 1 ∨ d = -1) :
    t.totalMonths = d * s.totalMonths := by
  unfold Span.totalMonths
  rw [h.years]
  rw [h.months]
  rcases hd with rfl | rfl <;> omega

theorem fixedNanos (h : IsMultiple d s t) (hd : d = 1 ∨ d = -1) :
    t.fixedNanos = d * s.fixedNanos := by
  unfold Span.fixedNanos nanosPerDay nanosPerHour nanosPerMinute nanosPerSecond
  rw [h.days]
  rw [h.hours]
  rw [h.minutes]
  rw [h.seconds]
  rw [h.nanoseconds]
  rcases hd with rfl | rfl <;> omega

theorem natAbs_eq {a b : Int} (h : b = d * a) (hd : d = 1 ∨ d = -1) : b.natAbs = a.natAbs := by
  rcases hd with rfl | rfl <;> omega

theorem normal (h : IsMultiple d s t) (hd : d = 1 ∨ d = -1) (hs : s.Normal) : t.Normal where
  months := by
    rw [natAbs_eq h.months hd]
    exact hs.months
  hours := by
    rw [natAbs_eq h.hours hd]
    exact hs.hours
  minutes := by
    rw [natAbs_eq h.minutes hd]
    exact hs.minutes
  seconds := by
    rw [natAbs_eq h.seconds hd]
    exact hs.seconds
  nanoseconds := by
    rw [natAbs_eq h.nanoseconds hd]
    exact hs.nanoseconds

theorem along_one (h : IsMultiple d s t) (hs : s.Along d) : t.Along 1 := by
  have ⟨hyears, hmonths, hdays, hhours, hminutes, hseconds, hnanos⟩ := hs
  have ⟨hyears', hmonths', hdays', hhours', hminutes', hseconds', hnanos'⟩ := h
  constructor <;> omega

theorem along_neg_one (h : IsMultiple (-1) s t) (hs : s.Along 1) : t.Along (-1) := by
  have ⟨hyears, hmonths, hdays, hhours, hminutes, hseconds, hnanos⟩ := hs
  have ⟨hyears', hmonths', hdays', hhours', hminutes', hseconds', hnanos'⟩ := h
  constructor <;> omega

theorem moderate (h : IsMultiple d s t) (hd : d = 1 ∨ d = -1) (hs : s.Moderate) : t.Moderate where
  years := by
    rw [natAbs_eq h.years hd]
    exact hs.years
  days := by
    rw [natAbs_eq h.days hd]
    exact hs.days

end IsMultiple

end Span

end TimeMarkup
