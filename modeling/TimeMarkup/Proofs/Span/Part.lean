import TimeMarkup.Proofs.Span.Conservation

/-!
This module contains the setting of one amount of a span. The main statements say that it leaves the
finer amounts and those of the other total alone, and that its own total grows by what the amount
does.
-/

namespace TimeMarkup

namespace Span

inductive Part where
  | years
  | months
  | days
  | hours
  | minutes
  | seconds
  | nanoseconds
deriving DecidableEq

namespace Part

def rank : Part → Nat
  | years => 0
  | months => 1
  | days => 2
  | hours => 3
  | minutes => 4
  | seconds => 5
  | nanoseconds => 6

def countsMonths : Part → Bool
  | years | months => true
  | days | hours | minutes | seconds | nanoseconds => false

def inMonths : Part → Int
  | years => 12
  | months => 1
  | days | hours | minutes | seconds | nanoseconds => 0

def inNanos : Part → Int
  | years | months => 0
  | days => nanosPerDay
  | hours => nanosPerHour
  | minutes => nanosPerMinute
  | seconds => nanosPerSecond
  | nanoseconds => 1

/-- Nothing is carried from `p` into `q`, which is finer or counts toward the other total. -/
def Spares (p q : Part) : Prop :=
  p.countsMonths ≠ q.countsMonths ∨ p.rank < q.rank

instance (p q : Part) : Decidable (p.Spares q) :=
  inferInstanceAs (Decidable (_ ∨ _))

end Part

def part (s : Span) : Part → Amount
  | .years => s.years
  | .months => s.months
  | .days => s.days
  | .hours => s.hours
  | .minutes => s.minutes
  | .seconds => s.seconds
  | .nanoseconds => s.nanoseconds

def set (s : Span) (p : Part) (n : Amount) : Span :=
  match p with
  | .years => s.withYears n
  | .months => s.withMonths n
  | .days => s.withDays n
  | .hours => s.withHours n
  | .minutes => s.withMinutes n
  | .seconds => s.withSeconds n
  | .nanoseconds => s.withNanoseconds n

/-- `s` with `n` at `p`, before amounts are carried. -/
def put (s : Span) (p : Part) (n : Amount) : Span :=
  match p with
  | .years => { s with years := n }
  | .months => { s with months := n }
  | .days => { s with days := n }
  | .hours => { s with hours := n }
  | .minutes => { s with minutes := n }
  | .seconds => { s with seconds := n }
  | .nanoseconds => { s with nanoseconds := n }

variable {d : Int} {s t : Span} {p q : Part} {n : Amount}

theorem set_eq_carry (s : Span) (p : Part) (n : Amount) : s.set p n = (s.put p n).carry := by
  cases p <;> rfl

theorem part_put (s : Span) (p q : Part) (n : Amount) :
    (s.put p n).part q = if q = p then n else s.part q := by
  cases p <;> cases q <;> rfl

theorem part_put_of_ne (h : q ≠ p) : (s.put p n).part q = s.part q := by
  rw [part_put]
  rw [if_neg h]

theorem part_put_of_spares (h : p.Spares q) {r : Part} (hr : ¬ r.Spares q) :
    (s.put p n).part r = s.part r := by
  apply part_put_of_ne
  rintro rfl
  exact hr h

theorem totalMonths_put (s : Span) (p : Part) (n : Amount) :
    (s.put p n).totalMonths = s.totalMonths + p.inMonths * (n.toInt - (s.part p).toInt) := by
  unfold totalMonths
  cases p <;> simp only [put, part, Part.inMonths] <;> omega

theorem fixedNanos_put (s : Span) (p : Part) (n : Amount) :
    (s.put p n).fixedNanos = s.fixedNanos + p.inNanos * (n.toInt - (s.part p).toInt) := by
  unfold fixedNanos
  cases p <;>
    simp only [put, part, Part.inNanos, nanosPerDay, nanosPerHour, nanosPerMinute,
      nanosPerSecond] <;>
    omega

theorem Along.part_nonneg (h : s.Along d) (p : Part) : 0 ≤ d * (s.part p).toInt := by
  cases p with
  | years => exact h.years
  | months => exact h.months
  | days => exact h.days
  | hours => exact h.hours
  | minutes => exact h.minutes
  | seconds => exact h.seconds
  | nanoseconds => exact h.nanoseconds

theorem along_of_part_nonneg (h : ∀ p, 0 ≤ d * (s.part p).toInt) : s.Along d where
  years := h .years
  months := h .months
  days := h .days
  hours := h .hours
  minutes := h .minutes
  seconds := h .seconds
  nanoseconds := h .nanoseconds

theorem Along.put (h : s.Along d) (hn : 0 ≤ d * n.toInt) : (s.put p n).Along d := by
  apply along_of_part_nonneg
  intro q
  rw [part_put]
  split
  · exact hn
  · exact h.part_nonneg q

theorem part_carry_congr (h : ∀ r : Part, ¬ r.Spares q → s.part r = t.part r) :
    s.carry.part q = t.carry.part q := by
  cases q with
  | years =>
    have hyears : s.years = t.years := h .years (by decide)
    have hmonths : s.months = t.months := h .months (by decide)
    simp only [part, carry, hyears, hmonths]
  | months =>
    have hmonths : s.months = t.months := h .months (by decide)
    simp only [part, carry, hmonths]
  | days =>
    have hdays : s.days = t.days := h .days (by decide)
    have hhours : s.hours = t.hours := h .hours (by decide)
    have hminutes : s.minutes = t.minutes := h .minutes (by decide)
    have hseconds : s.seconds = t.seconds := h .seconds (by decide)
    have hnanos : s.nanoseconds = t.nanoseconds := h .nanoseconds (by decide)
    simp only [part, carry, hdays, hhours, hminutes, hseconds, hnanos]
  | hours =>
    have hhours : s.hours = t.hours := h .hours (by decide)
    have hminutes : s.minutes = t.minutes := h .minutes (by decide)
    have hseconds : s.seconds = t.seconds := h .seconds (by decide)
    have hnanos : s.nanoseconds = t.nanoseconds := h .nanoseconds (by decide)
    simp only [part, carry, hhours, hminutes, hseconds, hnanos]
  | minutes =>
    have hminutes : s.minutes = t.minutes := h .minutes (by decide)
    have hseconds : s.seconds = t.seconds := h .seconds (by decide)
    have hnanos : s.nanoseconds = t.nanoseconds := h .nanoseconds (by decide)
    simp only [part, carry, hminutes, hseconds, hnanos]
  | seconds =>
    have hseconds : s.seconds = t.seconds := h .seconds (by decide)
    have hnanos : s.nanoseconds = t.nanoseconds := h .nanoseconds (by decide)
    simp only [part, carry, hseconds, hnanos]
  | nanoseconds =>
    have hnanos : s.nanoseconds = t.nanoseconds := h .nanoseconds (by decide)
    simp only [part, carry, hnanos]

theorem part_set_of_spares (hs : s.Normal) (h : p.Spares q) : (s.set p n).part q = s.part q := by
  rw [set_eq_carry]
  rw [part_carry_congr (fun r hr => part_put_of_spares h hr)]
  rw [carry_eq_self hs]

theorem put_sumsFit (hs : s.Normal) (hdays : Amount.Fits (s.put p n).daySum)
    (hyears : Amount.Fits (s.put p n).yearSum) : (s.put p n).SumsFit := by
  have ⟨_, hhour, hminute, hsecond, hnano⟩ := hs
  -- No carry comes up to `n`, and an amount within its bound has room for any carry.
  have hseconds : Amount.Fits (s.put p n).secondSum := by
    by_cases hp : .seconds = p
    · subst hp
      rw [secondSum_eq (s := s.put .seconds n) hnano]
      apply Amount.toInt_fits
    · have hkept : (s.put p n).seconds = s.seconds := part_put_of_ne hp
      unfold secondSum
      rw [hkept]
      apply Amount.fits_add_tdiv (by decide) (by omega)
      apply Amount.toInt_fits
  have hminutes : Amount.Fits (s.put p n).minuteSum := by
    by_cases hp : .minutes = p
    · subst hp
      rw [minuteSum_eq (s := s.put .minutes n) hnano hsecond]
      apply Amount.toInt_fits
    · have hkept : (s.put p n).minutes = s.minutes := part_put_of_ne hp
      unfold minuteSum
      rw [hkept]
      exact Amount.fits_add_tdiv (by decide) (by omega) hseconds
  have hhours : Amount.Fits (s.put p n).hourSum := by
    by_cases hp : .hours = p
    · subst hp
      rw [hourSum_eq (s := s.put .hours n) hnano hsecond hminute]
      apply Amount.toInt_fits
    · have hkept : (s.put p n).hours = s.hours := part_put_of_ne hp
      unfold hourSum
      rw [hkept]
      exact Amount.fits_add_tdiv (by decide) (by omega) hminutes
  exact ⟨hseconds, hminutes, hhours, hdays, hyears⟩

theorem totals_set (hfit : (s.put p n).SumsFit) :
    (s.set p n).totalMonths = s.totalMonths + p.inMonths * (n.toInt - (s.part p).toInt)
      ∧ (s.set p n).fixedNanos = s.fixedNanos + p.inNanos * (n.toInt - (s.part p).toInt) := by
  rw [set_eq_carry]
  constructor
  · rw [hfit.totalMonths_carry]
    apply totalMonths_put
  · rw [hfit.fixedNanos_carry]
    apply fixedNanos_put

end Span

end TimeMarkup
