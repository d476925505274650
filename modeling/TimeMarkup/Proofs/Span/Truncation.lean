import TimeMarkup.Proofs.Span.Greedy
import TimeMarkup.Proofs.Span.Shown
import TimeMarkup.Proofs.Span.Sign

/-!
This module contains how much of a span its description leaves out. The main statements say that the
part shown is at most the whole span, and that one more of the unit at which the description ends
makes it longer than the span.
-/

namespace TimeMarkup

namespace Span

def addOne (p : Part) (s : Span) : Span :=
  s.set p ((s.part p).addClamped 1)

theorem addOne_normal (p : Part) (s : Span) : (s.addOne p).Normal := by
  rw [addOne, set_eq_carry]
  apply carry_normal

theorem part_natAbs_le {s : Span} (hs : s.Normal) (hm : s.Moderate) (p : Part) :
    (s.part p).toInt.natAbs ≤ 1000000000000 := by
  cases p with
  | years => exact hm.years
  | months => exact Nat.le_trans hs.months (by decide)
  | days => exact hm.days
  | hours => exact Nat.le_trans hs.hours (by decide)
  | minutes => exact Nat.le_trans hs.minutes (by decide)
  | seconds => exact Nat.le_trans hs.seconds (by decide)
  | nanoseconds => exact Nat.le_trans hs.nanoseconds (by decide)

theorem addClamped_one_toInt {a : Amount} (h : a.toInt.natAbs ≤ 1000000000000) :
    (a.addClamped 1).toInt = a.toInt + 1 := by
  have : (1 : Amount).toInt = 1 := rfl
  rw [Amount.addClamped_toInt]
  omega

section

variable {s : Span} (hs : s.Normal) (hm : s.Moderate)
include hs hm

theorem put_addClamped_one_sumsFit (p : Part) : (s.put p ((s.part p).addClamped 1)).SumsFit := by
  have hsmall (q : Part) :
      ((s.put p ((s.part p).addClamped 1)).part q).toInt.natAbs ≤ 4000000000000000000 := by
    have hp := part_natAbs_le hs hm p
    have hq := part_natAbs_le hs hm q
    rw [part_put]
    split
    · rw [addClamped_one_toInt hp]
      omega
    · omega
  apply sumsFit_of_natAbs_le
  · exact hsmall .years
  · exact hsmall .days
  · exact hsmall .hours
  · exact hsmall .minutes
  · exact hsmall .seconds

theorem totals_addOne (p : Part) :
    (s.addOne p).totalMonths = s.totalMonths + p.inMonths
      ∧ (s.addOne p).fixedNanos = s.fixedNanos + p.inNanos := by
  have hone : (s.part p).toInt + 1 - (s.part p).toInt = 1 := by omega
  have htotals := totals_set (put_addClamped_one_sumsFit hs hm p)
  rw [addClamped_one_toInt (part_natAbs_le hs hm p)] at htotals
  rw [hone] at htotals
  rw [Int.mul_one, Int.mul_one] at htotals
  exact htotals

theorem addOne_along (h : s.Along 1) (p : Part) : (s.addOne p).Along 1 := by
  have hp := h.part_nonneg p
  rw [addOne, set_eq_carry]
  apply carry_along (Or.inl rfl)
  apply h.put
  rw [addClamped_one_toInt (part_natAbs_le hs hm p)]
  omega

end

def IsCut (p : Part) (s t : Span) : Prop :=
  ∀ q, t.part q = if q.rank ≤ p.rank then s.part q else 0

theorem shownPart_isCut (s : Span) (precision : String) {maxUnits : Nat} (h : 0 < maxUnits) :
    IsCut (s.lastUnit precision maxUnits).part s (s.shownPart precision maxUnits) := by
  intro q
  cases q with
  | years => exact amount_shownPart h .years
  | months => exact amount_shownPart h .months
  | days => exact amount_shownPart h .days
  | hours => exact amount_shownPart h .hours
  | minutes => exact amount_shownPart h .minutes
  | seconds => exact amount_shownPart h .seconds
  | nanoseconds =>
    rw [if_neg]
    · rfl
    · have hseconds := (s.lastUnit precision maxUnits).rank_le_rank_seconds
      exact Nat.not_le.mpr (Nat.lt_succ_of_le hseconds)

namespace IsCut

variable {p : Part} {s t : Span}

theorem toInt_eq (h : IsCut p s t) (q : Part) :
    (t.part q).toInt = if q.rank ≤ p.rank then (s.part q).toInt else 0 := by
  rw [h q]
  split <;> rfl

theorem toInt_eq_or (h : IsCut p s t) (q : Part) :
    (t.part q).toInt = (s.part q).toInt ∨ (t.part q).toInt = 0 := by
  rw [h.toInt_eq]
  split
  · exact Or.inl rfl
  · exact Or.inr rfl

theorem natAbs_le (h : IsCut p s t) (q : Part) {n : Nat} (hq : (s.part q).toInt.natAbs ≤ n) :
    (t.part q).toInt.natAbs ≤ n := by
  have := h.toInt_eq_or q
  omega

theorem normal (h : IsCut p s t) (hs : s.Normal) : t.Normal where
  months := h.natAbs_le .months hs.months
  hours := h.natAbs_le .hours hs.hours
  minutes := h.natAbs_le .minutes hs.minutes
  seconds := h.natAbs_le .seconds hs.seconds
  nanoseconds := h.natAbs_le .nanoseconds hs.nanoseconds

theorem along (h : IsCut p s t) (hs : s.Along 1) : t.Along 1 := by
  apply along_of_part_nonneg
  intro q
  have := hs.part_nonneg q
  have := h.toInt_eq_or q
  omega

theorem moderate (h : IsCut p s t) (hs : s.Moderate) : t.Moderate where
  years := h.natAbs_le .years hs.years
  days := h.natAbs_le .days hs.days

theorem totalMonths_eq (h : IsCut p s t) :
    t.totalMonths = 12 * s.years.toInt + if 1 ≤ p.rank then s.months.toInt else 0 := by
  have hyears : t.years.toInt = if 0 ≤ p.rank then s.years.toInt else 0 := h.toInt_eq .years
  have hmonths : t.months.toInt = if 1 ≤ p.rank then s.months.toInt else 0 := h.toInt_eq .months
  rw [if_pos (Nat.zero_le _)] at hyears
  unfold totalMonths
  rw [hyears]
  rw [hmonths]

theorem fixedNanos_eq (h : IsCut p s t) :
    t.fixedNanos = nanosPerDay * (if 2 ≤ p.rank then s.days.toInt else 0)
      + nanosPerHour * (if 3 ≤ p.rank then s.hours.toInt else 0)
      + nanosPerMinute * (if 4 ≤ p.rank then s.minutes.toInt else 0)
      + nanosPerSecond * (if 5 ≤ p.rank then s.seconds.toInt else 0)
      + if 6 ≤ p.rank then s.nanoseconds.toInt else 0 := by
  have hdays : t.days.toInt = if 2 ≤ p.rank then s.days.toInt else 0 := h.toInt_eq .days
  have hhours : t.hours.toInt = if 3 ≤ p.rank then s.hours.toInt else 0 := h.toInt_eq .hours
  have hminutes : t.minutes.toInt = if 4 ≤ p.rank then s.minutes.toInt else 0 :=
    h.toInt_eq .minutes
  have hseconds : t.seconds.toInt = if 5 ≤ p.rank then s.seconds.toInt else 0 :=
    h.toInt_eq .seconds
  have hnanos : t.nanoseconds.toInt = if 6 ≤ p.rank then s.nanoseconds.toInt else 0 :=
    h.toInt_eq .nanoseconds
  unfold fixedNanos
  rw [hdays]
  rw [hhours]
  rw [hminutes]
  rw [hseconds]
  rw [hnanos]

-- Months are compared before the fixed length, which a cut at years or months drops as a whole.
theorem at_most (h : IsCut p s t) (hs : s.Along 1) :
    (t.totalMonths < s.totalMonths ∧ t.fixedNanos = 0)
      ∨ (t.totalMonths = s.totalMonths ∧ t.fixedNanos ≤ s.fixedNanos) := by
  have ⟨_, hmonths, hdays, hhours, hminutes, hseconds, hnanos⟩ := hs
  rw [h.totalMonths_eq]
  rw [h.fixedNanos_eq]
  unfold totalMonths fixedNanos nanosPerDay nanosPerHour nanosPerMinute nanosPerSecond
  cases p
  case years =>
    simp only [Part.rank, Nat.reduceLeDiff, reduceIte]
    omega
  all_goals
    simp only [Part.rank, Nat.reduceLeDiff, Nat.le_refl, reduceIte, true_and]
    right
    omega

theorem lt_addOne (h : IsCut p s t) (hs : s.Normal) :
    (s.totalMonths < t.totalMonths + p.inMonths ∧ t.fixedNanos + p.inNanos = 0)
      ∨ (t.totalMonths + p.inMonths = s.totalMonths
          ∧ s.fixedNanos < t.fixedNanos + p.inNanos) := by
  have hmonths := bounds_of_natAbs_le hs.months
  have hhours := bounds_of_natAbs_le hs.hours
  have hminutes := bounds_of_natAbs_le hs.minutes
  have hseconds := bounds_of_natAbs_le hs.seconds
  have hnanos := bounds_of_natAbs_le hs.nanoseconds
  rw [h.totalMonths_eq]
  rw [h.fixedNanos_eq]
  unfold totalMonths fixedNanos Part.inNanos nanosPerDay nanosPerHour nanosPerMinute nanosPerSecond
  cases p
  case years | months =>
    simp only [Part.rank, Part.inMonths, Nat.reduceLeDiff, Nat.le_refl, reduceIte]
    left
    omega
  all_goals
    simp only [Part.rank, Part.inMonths, Nat.reduceLeDiff, Nat.le_refl, reduceIte, Int.add_zero,
      true_and]
    right
    omega

end IsCut

end Span

end TimeMarkup
