import TimeMarkup.Span.Apply

/-!
This module contains what carrying does to a span. The main statements say that every amount but
years and days ends up smaller than the next unit, that no amount changes its sign, and that the
months and the fixed length of the span stay the same as long as no sum leaves the range of amounts.
-/

namespace TimeMarkup

/-- `a` is split into `q` units of size `b` and a rest `r` with the sign of `a`. -/
structure Truncates (a b q r : Int) : Prop where
  sum : b * q + r = a
  nonneg : 0 ≤ a → 0 ≤ q ∧ 0 ≤ r
  nonpos : a ≤ 0 → q ≤ 0 ∧ r ≤ 0

theorem truncates_tdiv_tmod (a : Int) {b : Int} (h : 0 < b) :
    Truncates a b (a.tdiv b) (a.tmod b) where
  sum := Int.mul_tdiv_add_tmod a b
  nonneg := by
    intro ha
    constructor
    · apply Int.tdiv_nonneg <;> omega
    · exact Int.tmod_nonneg b ha
  nonpos := by
    intro ha
    have hq := Int.tdiv_nonneg (a := -a) (b := b) (by omega) (by omega)
    have hr := Int.tmod_nonneg (a := -a) b (by omega)
    rw [Int.neg_tdiv] at hq
    rw [Int.neg_tmod] at hr
    omega

theorem natAbs_tmod_le (a : Int) {b : Int} (h : 0 < b) : (a.tmod b).natAbs ≤ (b - 1).toNat := by
  have h₁ := Int.lt_tmod_of_pos a h
  have h₂ := Int.tmod_lt_of_pos a h
  omega

theorem tdiv_tmod_of_natAbs_le {a b : Int} (hb : 0 < b) (h : a.natAbs ≤ (b - 1).toNat) :
    a.tdiv b = 0 ∧ a.tmod b = a := by
  have hsum := Int.mul_tdiv_add_tmod a b
  have hdiv : a.tdiv b = 0 := by
    rw [← Int.natAbs_eq_zero, Int.natAbs_tdiv]
    apply Nat.div_eq_of_lt
    omega
  rw [hdiv, Int.mul_zero, Int.zero_add] at hsum
  exact ⟨hdiv, hsum⟩

-- In front of large numbers: omega splits each absolute value anew, but not the two bounds.
theorem bounds_of_natAbs_le {a : Int} {n : Nat} (h : a.natAbs ≤ n) : -(n : Int) ≤ a ∧ a ≤ n := by
  omega

theorem Amount.addClamped_div_toInt (a b : Amount) {n : Amount} (h : 1 < n.toInt) :
    (a.addClamped (b / n)).toInt
      = max (-9223372036854775808)
          (min (a.toInt + b.toInt.tdiv n.toInt) 9223372036854775807) := by
  rw [addClamped_toInt]
  rw [toInt_div_of_lt h]

def Amount.Fits (n : Int) : Prop :=
  -9223372036854775808 ≤ n ∧ n < 9223372036854775808

instance (n : Int) : Decidable (Amount.Fits n) :=
  inferInstanceAs (Decidable (_ ∧ _))

theorem Amount.toInt_fits (a : Amount) : Fits a.toInt :=
  ⟨a.le_toInt, a.toInt_lt⟩

theorem Amount.addClamped_div_toInt_of_fits {a b n : Amount} {m : Int} (hn : 1 < n.toInt)
    (hb : b.toInt = m) (h : Fits (a.toInt + m.tdiv n.toInt)) :
    (a.addClamped (b / n)).toInt = a.toInt + m.tdiv n.toInt := by
  have ⟨hlow, hhigh⟩ := h
  rw [addClamped_div_toInt a b hn]
  rw [hb]
  omega

theorem Amount.fits_add_tdiv {a b n : Int} (hn : 1 < n)
    (ha : a.natAbs ≤ 4000000000000000000) (hb : Fits b) : Fits (a + b.tdiv n) := by
  have ⟨hlow, hhigh⟩ := hb
  have hhalf : (b.tdiv n).natAbs ≤ b.natAbs / 2 := by
    rw [Int.natAbs_tdiv]
    apply Nat.div_le_div_left <;> omega
  constructor <;> omega

namespace Span

def totalMonths (s : Span) : Int :=
  12 * s.years.toInt + s.months.toInt

def fixedNanos (s : Span) : Int :=
  nanosPerDay * s.days.toInt + nanosPerHour * s.hours.toInt + nanosPerMinute * s.minutes.toInt
    + nanosPerSecond * s.seconds.toInt + s.nanoseconds.toInt

/-- All amounts of `s` have the sign of `d` or are zero. -/
structure Along (d : Int) (s : Span) : Prop where
  years : 0 ≤ d * s.years.toInt
  months : 0 ≤ d * s.months.toInt
  days : 0 ≤ d * s.days.toInt
  hours : 0 ≤ d * s.hours.toInt
  minutes : 0 ≤ d * s.minutes.toInt
  seconds : 0 ≤ d * s.seconds.toInt
  nanoseconds : 0 ≤ d * s.nanoseconds.toInt

theorem zero_along (d : Int) : zero.Along d := by
  constructor <;> exact Int.le_of_eq (Int.mul_zero d).symm

theorem Along.totalMonths_nonneg {d : Int} {s : Span} (h : s.Along d) : 0 ≤ d * s.totalMonths := by
  have hyears := h.years
  have hmonths := h.months
  unfold totalMonths
  rw [Int.mul_add, Int.mul_left_comm]
  omega

theorem Along.fixedNanos_nonneg {d : Int} {s : Span} (h : s.Along d) : 0 ≤ d * s.fixedNanos := by
  have ⟨_, _, hdays, hhours, hminutes, hseconds, hnanos⟩ := h
  unfold fixedNanos nanosPerDay nanosPerHour nanosPerMinute nanosPerSecond
  simp only [Int.mul_add, Int.mul_left_comm d]
  omega

/-- All amounts but years and days are smaller than the next unit. -/
structure Normal (s : Span) : Prop where
  months : s.months.toInt.natAbs ≤ 11
  hours : s.hours.toInt.natAbs ≤ 23
  minutes : s.minutes.toInt.natAbs ≤ 59
  seconds : s.seconds.toInt.natAbs ≤ 59
  nanoseconds : s.nanoseconds.toInt.natAbs ≤ 999999999

theorem zero_normal : zero.Normal := by
  constructor <;> decide

def carriedSeconds (s : Span) : Amount :=
  s.seconds.addClamped (s.nanoseconds / 1000000000)

def carriedMinutes (s : Span) : Amount :=
  s.minutes.addClamped (s.carriedSeconds / 60)

def carriedHours (s : Span) : Amount :=
  s.hours.addClamped (s.carriedMinutes / 60)

def secondSum (s : Span) : Int :=
  s.seconds.toInt + s.nanoseconds.toInt.tdiv 1000000000

def minuteSum (s : Span) : Int :=
  s.minutes.toInt + s.secondSum.tdiv 60

def hourSum (s : Span) : Int :=
  s.hours.toInt + s.minuteSum.tdiv 60

def daySum (s : Span) : Int :=
  s.days.toInt + s.hourSum.tdiv 24

def yearSum (s : Span) : Int :=
  s.years.toInt + s.months.toInt.tdiv 12

/-- None of the five sums of carrying leaves the range of amounts. -/
structure SumsFit (s : Span) : Prop where
  seconds : Amount.Fits s.secondSum
  minutes : Amount.Fits s.minuteSum
  hours : Amount.Fits s.hourSum
  days : Amount.Fits s.daySum
  years : Amount.Fits s.yearSum

instance (s : Span) : Decidable s.SumsFit :=
  decidable_of_iff
    (Amount.Fits s.secondSum ∧ Amount.Fits s.minuteSum ∧ Amount.Fits s.hourSum
      ∧ Amount.Fits s.daySum ∧ Amount.Fits s.yearSum)
    ⟨fun ⟨h₁, h₂, h₃, h₄, h₅⟩ => ⟨h₁, h₂, h₃, h₄, h₅⟩,
      fun ⟨h₁, h₂, h₃, h₄, h₅⟩ => ⟨h₁, h₂, h₃, h₄, h₅⟩⟩

theorem carriedSeconds_toInt (s : Span) :
    s.carriedSeconds.toInt
      = max (-9223372036854775808)
          (min (s.seconds.toInt + s.nanoseconds.toInt.tdiv 1000000000) 9223372036854775807) := by
  apply Amount.addClamped_div_toInt
  decide

theorem carriedMinutes_toInt (s : Span) :
    s.carriedMinutes.toInt
      = max (-9223372036854775808)
          (min (s.minutes.toInt + s.carriedSeconds.toInt.tdiv 60) 9223372036854775807) := by
  apply Amount.addClamped_div_toInt
  decide

theorem carriedHours_toInt (s : Span) :
    s.carriedHours.toInt
      = max (-9223372036854775808)
          (min (s.hours.toInt + s.carriedMinutes.toInt.tdiv 60) 9223372036854775807) := by
  apply Amount.addClamped_div_toInt
  decide

theorem carry_days_toInt (s : Span) :
    s.carry.days.toInt
      = max (-9223372036854775808)
          (min (s.days.toInt + s.carriedHours.toInt.tdiv 24) 9223372036854775807) := by
  apply Amount.addClamped_div_toInt
  decide

theorem carry_years_toInt (s : Span) :
    s.carry.years.toInt
      = max (-9223372036854775808)
          (min (s.years.toInt + s.months.toInt.tdiv 12) 9223372036854775807) := by
  apply Amount.addClamped_div_toInt
  decide

theorem carry_months_toInt (s : Span) : s.carry.months.toInt = s.months.toInt.tmod 12 := by
  apply Int64.toInt_mod

theorem carry_hours_toInt (s : Span) : s.carry.hours.toInt = s.carriedHours.toInt.tmod 24 := by
  apply Int64.toInt_mod

theorem carry_minutes_toInt (s : Span) :
    s.carry.minutes.toInt = s.carriedMinutes.toInt.tmod 60 := by
  apply Int64.toInt_mod

theorem carry_seconds_toInt (s : Span) :
    s.carry.seconds.toInt = s.carriedSeconds.toInt.tmod 60 := by
  apply Int64.toInt_mod

theorem carry_nanoseconds_toInt (s : Span) :
    s.carry.nanoseconds.toInt = s.nanoseconds.toInt.tmod 1000000000 := by
  apply Int64.toInt_mod

theorem carry_along {d : Int} {s : Span} (hd : d = 1 ∨ d = -1) (h : s.Along d) :
    s.carry.Along d := by
  have ⟨hyears, hmonths, hdays, hhours, hminutes, hseconds, hnanos⟩ := h
  -- A carry may be cut off at the ends of the range, so the sign is followed through the chain.
  have hnano := truncates_tdiv_tmod s.nanoseconds.toInt (b := 1000000000) (by omega)
  have hsec : 0 ≤ d * s.carriedSeconds.toInt := by
    have ⟨_, hpos, hneg⟩ := hnano
    rw [carriedSeconds_toInt]
    rcases hd with rfl | rfl <;> omega
  have hsecond := truncates_tdiv_tmod s.carriedSeconds.toInt (b := 60) (by omega)
  have hmin : 0 ≤ d * s.carriedMinutes.toInt := by
    have ⟨_, hpos, hneg⟩ := hsecond
    rw [carriedMinutes_toInt]
    rcases hd with rfl | rfl <;> omega
  have hminute := truncates_tdiv_tmod s.carriedMinutes.toInt (b := 60) (by omega)
  have hhour : 0 ≤ d * s.carriedHours.toInt := by
    have ⟨_, hpos, hneg⟩ := hminute
    rw [carriedHours_toInt]
    rcases hd with rfl | rfl <;> omega
  have hday := truncates_tdiv_tmod s.carriedHours.toInt (b := 24) (by omega)
  have hmonth := truncates_tdiv_tmod s.months.toInt (b := 12) (by omega)
  constructor
  · have ⟨_, hpos, hneg⟩ := hmonth
    rw [carry_years_toInt]
    rcases hd with rfl | rfl <;> omega
  · have ⟨_, hpos, hneg⟩ := hmonth
    rw [carry_months_toInt]
    rcases hd with rfl | rfl <;> omega
  · have ⟨_, hpos, hneg⟩ := hday
    rw [carry_days_toInt]
    rcases hd with rfl | rfl <;> omega
  · have ⟨_, hpos, hneg⟩ := hday
    rw [carry_hours_toInt]
    rcases hd with rfl | rfl <;> omega
  · have ⟨_, hpos, hneg⟩ := hminute
    rw [carry_minutes_toInt]
    rcases hd with rfl | rfl <;> omega
  · have ⟨_, hpos, hneg⟩ := hsecond
    rw [carry_seconds_toInt]
    rcases hd with rfl | rfl <;> omega
  · have ⟨_, hpos, hneg⟩ := hnano
    rw [carry_nanoseconds_toInt]
    rcases hd with rfl | rfl <;> omega

theorem totalMonths_eq_sums (s : Span) :
    s.totalMonths = 12 * s.yearSum + s.months.toInt.tmod 12 := by
  have hmonth := (truncates_tdiv_tmod s.months.toInt (b := 12) (by decide)).sum
  unfold totalMonths yearSum
  omega

theorem fixedNanos_eq_sums (s : Span) :
    s.fixedNanos = nanosPerDay * s.daySum + nanosPerHour * s.hourSum.tmod 24
      + nanosPerMinute * s.minuteSum.tmod 60 + nanosPerSecond * s.secondSum.tmod 60
      + s.nanoseconds.toInt.tmod 1000000000 := by
  have hnano := (truncates_tdiv_tmod s.nanoseconds.toInt (b := 1000000000) (by decide)).sum
  have hsecond := (truncates_tdiv_tmod s.secondSum (b := 60) (by decide)).sum
  have hminute := (truncates_tdiv_tmod s.minuteSum (b := 60) (by decide)).sum
  have hhour := (truncates_tdiv_tmod s.hourSum (b := 24) (by decide)).sum
  have hseconds : s.secondSum = s.seconds.toInt + s.nanoseconds.toInt.tdiv 1000000000 := rfl
  have hminutes : s.minuteSum = s.minutes.toInt + s.secondSum.tdiv 60 := rfl
  have hhours : s.hourSum = s.hours.toInt + s.minuteSum.tdiv 60 := rfl
  have hdays : s.daySum = s.days.toInt + s.hourSum.tdiv 24 := rfl
  unfold fixedNanos nanosPerDay nanosPerHour nanosPerMinute nanosPerSecond
  omega

namespace SumsFit

variable {s : Span}

theorem carriedSeconds_toInt (h : s.SumsFit) : s.carriedSeconds.toInt = s.secondSum := by
  apply Amount.addClamped_div_toInt_of_fits (by decide) rfl
  exact h.seconds

theorem carriedMinutes_toInt (h : s.SumsFit) : s.carriedMinutes.toInt = s.minuteSum := by
  apply Amount.addClamped_div_toInt_of_fits (by decide) h.carriedSeconds_toInt
  exact h.minutes

theorem carriedHours_toInt (h : s.SumsFit) : s.carriedHours.toInt = s.hourSum := by
  apply Amount.addClamped_div_toInt_of_fits (by decide) h.carriedMinutes_toInt
  exact h.hours

theorem carry_days_toInt (h : s.SumsFit) : s.carry.days.toInt = s.daySum := by
  apply Amount.addClamped_div_toInt_of_fits (by decide) h.carriedHours_toInt
  exact h.days

theorem carry_years_toInt (h : s.SumsFit) : s.carry.years.toInt = s.yearSum := by
  apply Amount.addClamped_div_toInt_of_fits (by decide) rfl
  exact h.years

theorem totalMonths_carry (h : s.SumsFit) : s.carry.totalMonths = s.totalMonths := by
  rw [totalMonths_eq_sums s]
  unfold totalMonths
  rw [h.carry_years_toInt]
  rw [carry_months_toInt]

theorem fixedNanos_carry (h : s.SumsFit) : s.carry.fixedNanos = s.fixedNanos := by
  rw [fixedNanos_eq_sums s]
  unfold fixedNanos
  rw [h.carry_days_toInt]
  rw [carry_hours_toInt, h.carriedHours_toInt]
  rw [carry_minutes_toInt, h.carriedMinutes_toInt]
  rw [carry_seconds_toInt, h.carriedSeconds_toInt]
  rw [carry_nanoseconds_toInt]

end SumsFit

theorem sumsFit_of_natAbs_le {s : Span} (hy : s.years.toInt.natAbs ≤ 4000000000000000000)
    (hd : s.days.toInt.natAbs ≤ 4000000000000000000)
    (hh : s.hours.toInt.natAbs ≤ 4000000000000000000)
    (hm : s.minutes.toInt.natAbs ≤ 4000000000000000000)
    (hs : s.seconds.toInt.natAbs ≤ 4000000000000000000) : s.SumsFit := by
  have hseconds : Amount.Fits s.secondSum :=
    Amount.fits_add_tdiv (by decide) hs s.nanoseconds.toInt_fits
  have hminutes : Amount.Fits s.minuteSum := Amount.fits_add_tdiv (by decide) hm hseconds
  have hhours : Amount.Fits s.hourSum := Amount.fits_add_tdiv (by decide) hh hminutes
  constructor
  · exact hseconds
  · exact hminutes
  · exact hhours
  · exact Amount.fits_add_tdiv (by decide) hd hhours
  · exact Amount.fits_add_tdiv (by decide) hy s.months.toInt_fits

theorem carry_normal (s : Span) : s.carry.Normal where
  months := by
    rw [carry_months_toInt]
    exact natAbs_tmod_le _ (by omega)
  hours := by
    rw [carry_hours_toInt]
    exact natAbs_tmod_le _ (by omega)
  minutes := by
    rw [carry_minutes_toInt]
    exact natAbs_tmod_le _ (by omega)
  seconds := by
    rw [carry_seconds_toInt]
    exact natAbs_tmod_le _ (by omega)
  nanoseconds := by
    rw [carry_nanoseconds_toInt]
    exact natAbs_tmod_le _ (by omega)

theorem eq_of_toInt_eq {s t : Span} (hyears : s.years.toInt = t.years.toInt)
    (hmonths : s.months.toInt = t.months.toInt) (hdays : s.days.toInt = t.days.toInt)
    (hhours : s.hours.toInt = t.hours.toInt) (hminutes : s.minutes.toInt = t.minutes.toInt)
    (hseconds : s.seconds.toInt = t.seconds.toInt)
    (hnanos : s.nanoseconds.toInt = t.nanoseconds.toInt) : s = t := by
  cases s
  cases t
  rw [mk.injEq]
  simp only [Int64.toInt_inj] at *
  exact ⟨hyears, hmonths, hdays, hhours, hminutes, hseconds, hnanos⟩

theorem carry_eq_self {s : Span} (hs : s.Normal) : s.carry = s := by
  have ⟨hmonths, hhours, hminutes, hseconds, hnanos⟩ := hs
  have hnano := tdiv_tmod_of_natAbs_le (b := 1000000000) (by decide) hnanos
  have hsec : s.carriedSeconds.toInt = s.seconds.toInt := by
    rw [carriedSeconds_toInt]
    omega
  have hsecond := tdiv_tmod_of_natAbs_le (b := 60) (by decide) hseconds
  have hmin : s.carriedMinutes.toInt = s.minutes.toInt := by
    rw [carriedMinutes_toInt, hsec]
    omega
  have hminute := tdiv_tmod_of_natAbs_le (b := 60) (by decide) hminutes
  have hhour : s.carriedHours.toInt = s.hours.toInt := by
    rw [carriedHours_toInt, hmin]
    omega
  have hday := tdiv_tmod_of_natAbs_le (b := 24) (by decide) hhours
  have hmonth := tdiv_tmod_of_natAbs_le (b := 12) (by decide) hmonths
  have hyears := s.years.le_toInt
  have hyears' := s.years.toInt_lt
  have hdays := s.days.le_toInt
  have hdays' := s.days.toInt_lt
  apply eq_of_toInt_eq
  · rw [carry_years_toInt]
    omega
  · rw [carry_months_toInt]
    exact hmonth.2
  · rw [carry_days_toInt, hhour]
    omega
  · rw [carry_hours_toInt, hhour]
    exact hday.2
  · rw [carry_minutes_toInt, hmin]
    exact hminute.2
  · rw [carry_seconds_toInt, hsec]
    exact hsecond.2
  · rw [carry_nanoseconds_toInt]
    exact hnano.2

end Span

end TimeMarkup
