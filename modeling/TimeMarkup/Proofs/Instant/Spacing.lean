import TimeMarkup.Proofs.Instant.Shift

/-!
This module contains how far apart the shifts by months lie, how far they reach, and when two of
them make up a single one. The main statement says that every month takes 28 to 31 whole days, that
the shifts succeed up to the months of the first and the last instant, and that two of them make up
one where no month in between cuts off the day.
-/

namespace TimeMarkup

namespace Date

-- The induction is on the number of months, each of which adds one step of 28 to 31 days.
theorem dayNumber_addMonths_add_bounds (d : Date) (m : Int) (n : Nat) :
    (d.addMonths m).dayNumber + 28 * n ≤ (d.addMonths (m + n)).dayNumber
      ∧ (d.addMonths (m + n)).dayNumber ≤ (d.addMonths m).dayNumber + 31 * n := by
  induction n with
  | zero => simp
  | succ n ih =>
    have hstep := dayNumber_addMonths_add_one_bounds d (m + n)
    rw [show m + ((n + 1 : Nat) : Int) = m + n + 1 by omega]
    omega

theorem addMonths_addMonths_eq_iff (d : Date) (m n : Int) :
    (d.addMonths m).addMonths n = d.addMonths (m + n)
      ↔ (d.addMonths (m + n)).day ≤ monthLength (d.index + m) := by
  have hmonth : d.index + (m + n) = d.index + m + n := by omega
  rw [eq_iff_index_day]
  simp only [index_addMonths, day_addMonths, hmonth, true_and]
  omega

end Date

namespace Instant

/-- From `a` to `b` there are only whole days, 28 to 31 of them for each of `n` months. -/
def MonthsApart (a b : Instant) (n : Int) : Prop :=
  ∃ days, b.nanos = a.nanos + nanosPerDay * days ∧ 28 * n ≤ days ∧ days ≤ 31 * n

variable {a b c : Instant} {m n : Int}

theorem lt_of_addMonths? (hmn : m < n) (hb : a.addMonths? m = some b)
    (hc : a.addMonths? n = some c) : b < c := by
  rw [addMonths?_eq_some_iff] at hb hc
  rw [lt_def]
  rw [hb, hc]
  apply nanosAfterMonths_lt
  exact hmn

theorem monthsApart_of_addMonths? (hmn : m ≤ n) (hb : a.addMonths? m = some b)
    (hc : a.addMonths? n = some c) : b.MonthsApart c (n - m) := by
  have hbounds := a.date.dayNumber_addMonths_add_bounds m (n - m).toNat
  rw [show m + ((n - m).toNat : Int) = n by omega] at hbounds
  rw [addMonths?_eq_some_iff] at hb hc
  unfold nanosAfterMonths nanosPerDay at hb hc
  exists (a.date.addMonths n).dayNumber - (a.date.addMonths m).dayNumber
  unfold nanosPerDay
  omega

theorem index_first : first.date.index = -3145716 := by
  decide +kernel

theorem index_last : last.date.index = 3145715 := by
  decide +kernel

theorem addMonths?_isSome_iff_index (a : Instant) (n : Int) :
    (a.addMonths? n).isSome
      ↔ first.date.index ≤ a.date.index + n ∧ a.date.index + n ≤ last.date.index := by
  rw [index_first, index_last]
  apply addMonths?_isSome_iff

theorem addMonths?_isSome_add_iff (hb : a.addMonths? m = some b) (n : Int) :
    (b.addMonths? n).isSome ↔ (a.addMonths? (m + n)).isSome := by
  rw [addMonths?_isSome_iff, addMonths?_isSome_iff]
  rw [date_of_addMonths? hb]
  rw [Date.index_addMonths]
  rw [Int.add_assoc]

theorem addMonths?_add_iff (hb : a.addMonths? m = some b) (hc : a.addMonths? (m + n) = some c) :
    b.addMonths? n = some c ↔ c.date.day ≤ daysInMonth b.date.year b.date.month := by
  rw [addMonths?_eq_some_iff_date] at hb hc ⊢
  rw [← Date.monthLength_index]
  rw [hb.1, hc.1]
  rw [Date.index_addMonths]
  rw [← Date.addMonths_addMonths_eq_iff]
  rw [hb.2, hc.2]
  rw [and_iff_left rfl]
  exact eq_comm

-- The single shift fails along with the second of the two, so it may be out of range as well.
theorem addMonths?_add (hday : a.date.day ≤ 28) (hb : a.addMonths? m = some b) (n : Int) :
    b.addMonths? n = a.addMonths? (m + n) := by
  cases hc : a.addMonths? (m + n) with
  | none =>
    have hsome := addMonths?_isSome_add_iff hb n
    rw [hc] at hsome
    simpa using hsome
  | some c =>
    have hshort := le_daysInMonth b.date.year b.date.month
    rw [addMonths?_add_iff hb hc]
    rw [date_of_addMonths? hc]
    rw [Date.day_addMonths]
    omega

/--
More months lead to a later instant, by 28 to 31 whole days for each month, and the shifts that
succeed are those up to the months of the first and the last instant. Two shifts make up one if and
only if the month in between has the day that the one leads to, which is always so up to the 28th.
-/
theorem addMonths?_spaced (a : Instant) :
    (∀ m b c, a.addMonths? m = some b → a.addMonths? (m + 1) = some c → b.MonthsApart c 1)
      ∧ (∀ m n b c, m < n → a.addMonths? m = some b → a.addMonths? n = some c → b < c)
      ∧ a.addMonths? 0 = some a
      ∧ (∀ n, (a.addMonths? n).isSome
          ↔ first.date.index ≤ a.date.index + n ∧ a.date.index + n ≤ last.date.index)
      ∧ (∀ m n b c, a.addMonths? m = some b → a.addMonths? (m + n) = some c →
          (b.addMonths? n = some c ↔ c.date.day ≤ daysInMonth b.date.year b.date.month))
      ∧ (a.date.day ≤ 28 →
          ∀ m n b, a.addMonths? m = some b → b.addMonths? n = a.addMonths? (m + n))
      ∧ ∀ n b, a.addMonths? n = some b →
          (0 ≤ n → a.MonthsApart b n) ∧ (n ≤ 0 → b.MonthsApart a (-n)) := by
  have hzero := addMonths?_zero a
  refine ⟨?_, ?_, hzero, ?_, ?_, ?_, ?_⟩
  · intro m b c hb hc
    have happart := monthsApart_of_addMonths? (by omega) hb hc
    rwa [show m + 1 - m = 1 by omega] at happart
  · intro m n b c hmn hb hc
    exact lt_of_addMonths? hmn hb hc
  · exact addMonths?_isSome_iff_index a
  · intro m n b c hb hc
    exact addMonths?_add_iff hb hc
  · intro hday m n b hb
    exact addMonths?_add hday hb n
  · intro n b hb
    constructor
    · intro hn
      have happart := monthsApart_of_addMonths? hn hzero hb
      rwa [Int.sub_zero] at happart
    · intro hn
      have happart := monthsApart_of_addMonths? hn hb hzero
      rwa [Int.zero_sub] at happart

/--
The last nanoseconds of January 31, February 29 and March 31 in a leap year, where two months are
not twice one, and January 28 with the February 28 of the next year, from where months go on as from
January.
-/
theorem addMonths?_spaced_leap_year :
    let january : Instant := ⟨1706745600 * 1000000000 - 1, by omega, by omega⟩
    let february : Instant := ⟨1709251200 * 1000000000 - 1, by omega, by omega⟩
    let march : Instant := ⟨1711929600 * 1000000000 - 1, by omega, by omega⟩
    let start : Instant := ⟨1706400000 * 1000000000, by omega, by omega⟩
    let later : Instant := ⟨1740700800 * 1000000000, by omega, by omega⟩
    (january.addMonths? 1 = some february ∧ january.addMonths? 2 = some march
        ∧ february.MonthsApart march 1 ∧ february < march
        ∧ february.addMonths? 1 ≠ some march)
      ∧ (march.addMonths? (-2) = some january ∧ january.MonthsApart march 2)
      ∧ (start.date.day ≤ 28 ∧ start.addMonths? 13 = some later ∧ start.MonthsApart later 13
        ∧ later.addMonths? (-14) = start.addMonths? (-1)) := by
  intro january february march start later
  have hone : january.addMonths? 1 = some february := by decide +kernel
  have htwo : january.addMonths? 2 = some march := by decide +kernel
  have hback : march.addMonths? (-2) = some january := by decide +kernel
  have hday : start.date.day ≤ 28 := by decide +kernel
  have hlater : start.addMonths? 13 = some later := by decide +kernel
  have hcut : ¬ march.date.day ≤ daysInMonth february.date.year february.date.month := by
    decide +kernel
  have ⟨happart, hmono, _, _, hadd, _, _⟩ := addMonths?_spaced january
  have ⟨_, _, _, _, _, _, hreach⟩ := addMonths?_spaced march
  have ⟨_, _, _, _, _, hshort, hreach'⟩ := addMonths?_spaced start
  refine ⟨⟨hone, htwo, ?_, ?_, ?_⟩, ⟨hback, ?_⟩, hday, hlater, ?_, ?_⟩
  · exact happart 1 february march hone htwo
  · exact hmono 1 2 february march (by decide) hone htwo
  · rw [ne_eq]
    rw [hadd 1 1 february march hone htwo]
    exact hcut
  · exact (hreach (-2) january hback).2 (by decide)
  · exact (hreach' 13 later hlater).1 (by decide)
  · exact hshort hday 13 (-14) later hlater

end Instant

end TimeMarkup
