import TimeMarkup.Proofs.Span.Canonical

/-!
This module contains what carrying keeps of a span. The main statement says that the months and the
fixed length stay the same as long as the five sums are in the range of amounts, and that the result
is then the only carried span of its sign that has them. Carrying twice is carrying once, whatever
the sums are.
-/

namespace TimeMarkup

namespace Span

variable {d : Int} {s t : Span}

theorem secondSum_eq (hnanos : s.nanoseconds.toInt.natAbs ≤ 999999999) :
    s.secondSum = s.seconds.toInt := by
  have := tdiv_tmod_of_natAbs_le (b := 1000000000) (by decide) hnanos
  unfold secondSum
  omega

theorem minuteSum_eq (hnanos : s.nanoseconds.toInt.natAbs ≤ 999999999)
    (hseconds : s.seconds.toInt.natAbs ≤ 59) : s.minuteSum = s.minutes.toInt := by
  have := tdiv_tmod_of_natAbs_le (b := 60) (by decide) hseconds
  unfold minuteSum
  rw [secondSum_eq hnanos]
  omega

theorem hourSum_eq (hnanos : s.nanoseconds.toInt.natAbs ≤ 999999999)
    (hseconds : s.seconds.toInt.natAbs ≤ 59) (hminutes : s.minutes.toInt.natAbs ≤ 59) :
    s.hourSum = s.hours.toInt := by
  have := tdiv_tmod_of_natAbs_le (b := 60) (by decide) hminutes
  unfold hourSum
  rw [minuteSum_eq hnanos hseconds]
  omega

theorem along_add_tdiv {a b m : Int} (hd : d = 1 ∨ d = -1) (ha : 0 ≤ d * a) (hb : 0 ≤ d * b)
    (hm : 0 < m) : 0 ≤ d * (a + b.tdiv m) := by
  have ⟨_, hnonneg, hnonpos⟩ := truncates_tdiv_tmod b hm
  rcases hd with rfl | rfl <;> omega

theorem along_tmod {a m : Int} (hd : d = 1 ∨ d = -1) (ha : 0 ≤ d * a) (hm : 0 < m) :
    0 ≤ d * a.tmod m ∧ d * a.tmod m < m := by
  have ⟨_, hnonneg, hnonpos⟩ := truncates_tdiv_tmod a hm
  have hlt := natAbs_tmod_le a hm
  rcases hd with rfl | rfl <;> omega

theorem daySum_bounds (hd : d = 1 ∨ d = -1) (h : s.Along d) :
    0 ≤ d * s.daySum ∧ nanosPerDay * (d * s.daySum) ≤ d * s.fixedNanos
      ∧ d * s.fixedNanos < nanosPerDay * (d * s.daySum) + nanosPerDay := by
  have hseconds : 0 ≤ d * s.secondSum := along_add_tdiv hd h.seconds h.nanoseconds (by decide)
  have hminutes : 0 ≤ d * s.minuteSum := along_add_tdiv hd h.minutes hseconds (by decide)
  have hhours : 0 ≤ d * s.hourSum := along_add_tdiv hd h.hours hminutes (by decide)
  have hdays : 0 ≤ d * s.daySum := along_add_tdiv hd h.days hhours (by decide)
  have hnano := along_tmod (m := 1000000000) hd h.nanoseconds (by decide)
  have hsecond := along_tmod (m := 60) hd hseconds (by decide)
  have hminute := along_tmod (m := 60) hd hminutes (by decide)
  have hhour := along_tmod (m := 24) hd hhours (by decide)
  -- The remainders below the days have the same sign and make less than a day.
  rw [fixedNanos_eq_sums]
  unfold nanosPerDay nanosPerHour nanosPerMinute nanosPerSecond
  simp only [Int.mul_add, Int.mul_left_comm d]
  omega

theorem yearSum_bounds (hd : d = 1 ∨ d = -1) (h : s.Along d) :
    0 ≤ d * s.yearSum ∧ 12 * (d * s.yearSum) ≤ d * s.totalMonths
      ∧ d * s.totalMonths < 12 * (d * s.yearSum) + 12 := by
  have hyears : 0 ≤ d * s.yearSum := along_add_tdiv hd h.years h.months (by decide)
  have hmonth := along_tmod (m := 12) hd h.months (by decide)
  rw [totalMonths_eq_sums]
  simp only [Int.mul_add, Int.mul_left_comm d]
  omega

theorem fits_of_le {a b : Int} (hd : d = 1 ∨ d = -1) (ha : 0 ≤ d * a) (hab : d * a ≤ d * b)
    (hb : Amount.Fits b) : Amount.Fits a := by
  have ⟨hlow, hhigh⟩ := hb
  rcases hd with rfl | rfl <;> constructor <;> omega

theorem daySum_yearSum_fit (hd : d = 1 ∨ d = -1) (hs : s.Along d) (ht : t.Along d)
    (hfit : t.SumsFit) (hmonths : d * s.totalMonths ≤ d * t.totalMonths)
    (hfixed : d * s.fixedNanos ≤ d * t.fixedNanos) :
    Amount.Fits s.daySum ∧ Amount.Fits s.yearSum := by
  have ⟨hdays, hdays', _⟩ := daySum_bounds hd hs
  have ⟨_, _, hdaysLt⟩ := daySum_bounds hd ht
  have ⟨hyears, hyears', _⟩ := yearSum_bounds hd hs
  have ⟨_, _, hyearsLt⟩ := yearSum_bounds hd ht
  unfold nanosPerDay at hdays' hdaysLt
  constructor
  · apply fits_of_le hd hdays _ hfit.days
    omega
  · apply fits_of_le hd hyears _ hfit.years
    omega

theorem eq_carry_of_totals_eq (hd : d = 1 ∨ d = -1) (hs : s.Along d) (hfit : s.SumsFit)
    (ht : t.Normal) (htd : t.Along d) (hmonths : t.totalMonths = s.totalMonths)
    (hfixed : t.fixedNanos = s.fixedNanos) : t = s.carry := by
  have hcanonical {u : Span} (hu : u.Normal) (hud : u.Along d) : u.Canonical := by
    apply canonical_of_along hu
    rcases hd with rfl | rfl
    · exact Or.inl hud
    · exact Or.inr hud
  apply (hcanonical ht htd).eq_of_totals_eq (hcanonical (carry_normal s) (carry_along hd hs))
  · rw [hfit.totalMonths_carry]
    exact hmonths
  · rw [hfit.fixedNanos_carry]
    exact hfixed

/--
Carrying keeps the months and the fixed length if no sum leaves the range of amounts. Years and
months only depend on each other, so days never become months. Amounts of one sign keep it, and only
one carried span of this sign has the same totals. A carried span has nothing to carry.
-/
theorem carry_conserves (s : Span) :
    (s.SumsFit → s.carry.totalMonths = s.totalMonths ∧ s.carry.fixedNanos = s.fixedNanos)
      ∧ (∀ t : Span, t.years = s.years → t.months = s.months →
        t.carry.years = s.carry.years ∧ t.carry.months = s.carry.months)
      ∧ (∀ d : Int, d = 1 ∨ d = -1 → s.Along d →
        s.carry.Along d
          ∧ (s.SumsFit → ∀ t : Span, t.Normal → t.Along d → t.totalMonths = s.totalMonths →
            t.fixedNanos = s.fixedNanos → t = s.carry))
      ∧ s.carry.Normal
      ∧ s.carry.carry = s.carry := by
  refine ⟨?_, ?_, ?_, ?_, ?_⟩
  · intro hfit
    exact ⟨hfit.totalMonths_carry, hfit.fixedNanos_carry⟩
  · intro t hyears hmonths
    unfold carry
    rw [hyears, hmonths]
    exact ⟨rfl, rfl⟩
  · intro d hd hs
    constructor
    · exact carry_along hd hs
    · intro hfit t ht htd hmonths hfixed
      exact eq_carry_of_totals_eq hd hs hfit ht htd hmonths hfixed
  · exact carry_normal s
  · exact carry_eq_self (carry_normal s)

theorem carry_conserves_cascade :
    let s : Span := ⟨-1, -23, -30, -23, -59, -59, -1000000000⟩
    let t : Span := ⟨-2, -11, -31, 0, 0, 0, 0⟩
    let u : Span := { s with days := -36500 }
    s.SumsFit ∧ s.carry.totalMonths = s.totalMonths ∧ s.carry.fixedNanos = s.fixedNanos
      ∧ u.carry.years = s.carry.years ∧ u.carry.months = s.carry.months
      ∧ s.Along (-1) ∧ s.carry.Along (-1) ∧ t.Normal ∧ t.Along (-1)
      ∧ t.totalMonths = s.totalMonths ∧ t.fixedNanos = s.fixedNanos ∧ t = s.carry := by
  intro s t u
  have hfit : s.SumsFit := by decide
  have hs : s.Along (-1) := by constructor <;> decide
  have ht : t.Normal := by constructor <;> decide
  have htd : t.Along (-1) := by constructor <;> decide
  have hmonths : t.totalMonths = s.totalMonths := by decide
  have hfixed : t.fixedNanos = s.fixedNanos := by decide
  have ⟨htotals, hmonthsOnly, hsign, _, _⟩ := carry_conserves s
  have ⟨hmonthsKept, hfixedKept⟩ := htotals hfit
  have ⟨hyearsSame, hmonthsSame⟩ := hmonthsOnly u rfl rfl
  have ⟨halong, hunique⟩ := hsign (-1) (Or.inr rfl) hs
  exact ⟨hfit, hmonthsKept, hfixedKept, hyearsSame, hmonthsSame, hs, halong, ht, htd, hmonths,
    hfixed, hunique hfit t ht htd hmonths hfixed⟩

end Span

end TimeMarkup
