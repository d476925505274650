import TimeMarkup.Proofs.Span.Greedy

/-!
This module contains what happens to a span when its ends change places. The main statement says
that it becomes its negative where the ends are less than 28 days or a number of whole months apart,
and that at least its years and months do where no day of the month is ever cut off.
-/

namespace TimeMarkup

namespace Instant

variable {a b : Instant}

theorem nanosAfterMonths_of_day_le (h : a.date.day ≤ 28) (n : Int) :
    a.nanosAfterMonths n
      = nanosPerDay * (monthStart (a.date.index + n) + (a.date.day - 1)) + a.timeOfDay := by
  have hlong : 28 ≤ monthLength (a.date.index + n) := le_daysInMonth _ _
  unfold nanosAfterMonths Date.dayNumber
  rw [Date.index_addMonths, Date.day_addMonths]
  rw [Int.min_eq_left (by omega)]

theorem nanos_eq_monthStart (i : Instant) :
    i.nanos = nanosPerDay * (monthStart i.date.index + (i.date.day - 1)) + i.timeOfDay := by
  rw [nanos_eq_date_timeOfDay i]
  rfl

-- Unless the shift ends in the month of the other instant, the months decide.
theorem nanosAfterMonths_le_iff (ha : a.date.day ≤ 28) (hb : b.date.day ≤ 28) (n : Int) :
    a.nanosAfterMonths n ≤ b.nanos ↔ a.nanos ≤ b.nanosAfterMonths (-n) := by
  rcases Int.lt_trichotomy (a.date.index + n) b.date.index with hlt | heq | hgt
  · have h₁ := nanosAfterMonths_lt_of_index_lt hlt
    have h₂ := lt_nanosAfterMonths_of_lt_index (i := b) (j := a) (n := -n) (by omega)
    omega
  · have hback : b.date.index + -n = a.date.index := by omega
    rw [nanosAfterMonths_of_day_le ha, nanosAfterMonths_of_day_le hb]
    rw [nanos_eq_monthStart a, nanos_eq_monthStart b]
    rw [heq, hback]
    unfold nanosPerDay
    omega
  · have h₁ := lt_nanosAfterMonths_of_lt_index hgt
    have h₂ := nanosAfterMonths_lt_of_index_lt (i := b) (j := a) (n := -n) (by omega)
    omega

theorem nanos_eq_nanosAfterMonths (hday : b.date.day = a.date.day)
    (htime : b.timeOfDay = a.timeOfDay) :
    b.nanos = a.nanosAfterMonths (b.date.index - a.date.index) := by
  have hmonth : a.date.index + (b.date.index - a.date.index) = b.date.index := by omega
  have hle := b.date.day_le
  rw [← Date.monthLength_index] at hle
  rw [nanos_eq_monthStart b]
  unfold nanosAfterMonths Date.dayNumber
  rw [Date.index_addMonths, Date.day_addMonths]
  rw [hmonth]
  rw [Int.min_eq_left (by omega)]
  rw [hday, htime]

end Instant

namespace Span

variable {a b : Instant}

theorem direction_swap (h : a ≠ b) : direction b a = -direction a b := by
  have hne : a.nanos ≠ b.nanos := by
    intro heq
    exact h (Instant.ext heq)
  rcases direction_eq a b with ⟨hd, _⟩ | ⟨hd, _⟩
  · rcases direction_eq b a with ⟨hd', _⟩ | ⟨hd', _⟩ <;> omega
  · rcases direction_eq b a with ⟨hd', _⟩ | ⟨hd', _⟩ <;> omega

-- Two shifts that differ by a month lie 28 days or more apart, so no month fits in between.
theorem isFarthest_zero_of_close (h : (b.nanos - a.nanos).natAbs < 28 * nanosPerDay) :
    IsFarthest a b 0 a := by
  have hforth := a.nanosAfterMonths_add_one_bounds 0
  have hback := a.nanosAfterMonths_add_one_bounds (-1)
  have hzero := a.nanosAfterMonths_zero
  apply isFarthest_zero
  unfold nanosPerDay at *
  rcases direction_eq a b with ⟨hd, _⟩ | ⟨hd, _⟩
  · rw [hd]
    rw [show (-1 : Int) + 1 = 0 from rfl] at hback
    omega
  · rw [hd]
    rw [show (0 : Int) + 1 = 1 from rfl] at hforth
    omega

theorem isFarthest_of_nanos_eq {n : Int} (h : b.nanos = a.nanosAfterMonths n) :
    IsFarthest a b n b where
  toward := by
    have hzero := a.nanosAfterMonths_zero
    rcases direction_eq a b with ⟨hd, _⟩ | ⟨hd, _⟩
    · have : ¬ 0 ≤ n := by
        intro hn
        have := a.nanosAfterMonths_le hn
        omega
      rw [hd]
      omega
    · have : ¬ n < 0 := by
        intro hn
        have := a.nanosAfterMonths_lt hn
        omega
      rw [hd]
      omega
  reached := Instant.addMonths?_eq_some_iff.mpr h
  not_beyond := by omega
  beyond := by
    rcases direction_eq a b with ⟨hd, _⟩ | ⟨hd, _⟩
    · have := a.nanosAfterMonths_lt (m := n + -1) (n := n) (by omega)
      rw [hd]
      omega
    · have := a.nanosAfterMonths_lt (m := n) (n := n + 1) (by omega)
      rw [hd]
      omega

-- What lies between two instants is an instant, so only the order has to be shown.
theorem exists_isFarthest {n : Int} (htoward : 0 ≤ direction a b * n)
    (hrest : 0 ≤ direction a b * (b.nanos - a.nanosAfterMonths n))
    (hbeyond : direction a b * (b.nanos - a.nanosAfterMonths (n + direction a b)) < 0) :
    ∃ anchor, IsFarthest a b n anchor := by
  have hzero := a.nanosAfterMonths_zero
  have hbetween : (a.nanos ≤ a.nanosAfterMonths n ∧ a.nanosAfterMonths n ≤ b.nanos)
      ∨ (b.nanos ≤ a.nanosAfterMonths n ∧ a.nanosAfterMonths n ≤ a.nanos) := by
    rcases direction_eq a b with ⟨hd, _⟩ | ⟨hd, _⟩
    · rw [hd] at htoward hrest
      have := a.nanosAfterMonths_le (m := n) (n := 0) (by omega)
      omega
    · rw [hd] at htoward hrest
      have := a.nanosAfterMonths_le (m := 0) (n := n) (by omega)
      omega
  obtain ⟨anchor, hanchor⟩ := Instant.exists_nanos_eq_of_between hbetween
  refine ⟨anchor, htoward, Instant.addMonths?_eq_some_iff.mpr hanchor, ?_, hbeyond⟩
  rw [hanchor]
  exact hrest

-- A count leads beyond the one instant from the other if and only if its opposite does so the other
-- way round, and so the last count that does not is the same but for its sign.
theorem IsFarthest.swap {n : Int} {anchor : Instant} (ha : a.date.day ≤ 28)
    (hb : b.date.day ≤ 28) (hne : a ≠ b) (h : IsFarthest a b n anchor) :
    ∃ anchor', IsFarthest b a (-n) anchor' := by
  have ⟨htoward, hreached, hrest, hbeyond⟩ := h
  rw [Instant.addMonths?_eq_some_iff] at hreached
  have hswap := direction_swap hne
  rcases direction_eq a b with ⟨hd, _⟩ | ⟨hd, _⟩
  · rw [hd] at htoward hrest hbeyond hswap
    have hnear := Instant.nanosAfterMonths_le_iff hb ha (-n)
    have hpast := Instant.nanosAfterMonths_le_iff hb ha (-n + 1)
    rw [Int.neg_neg] at hnear
    rw [show -(-n + 1) = n + -1 by omega] at hpast
    apply exists_isFarthest
    all_goals
      rw [hswap]
      rw [Int.neg_neg]
      omega
  · rw [hd] at htoward hrest hbeyond hswap
    have hnear := Instant.nanosAfterMonths_le_iff ha hb n
    have hpast := Instant.nanosAfterMonths_le_iff ha hb (n + 1)
    rw [show -(n + 1) = -n + -1 by omega] at hpast
    apply exists_isFarthest
    all_goals
      rw [hswap]
      omega

theorem IsFarthest.totals {start stop anchor : Instant} {n : Int}
    (h : IsFarthest start stop n anchor) :
    (between start stop).totalMonths = n
      ∧ (between start stop).fixedNanos = stop.nanos - anchor.nanos := by
  rw [totalMonths_between]
  rw [fixedNanos_between]
  rw [h.wholeMonths_eq]
  exact ⟨rfl, rfl⟩

theorem neg_between_isMultiple (a b : Instant) :
    IsMultiple (-1) (between a b) (-between a b) := by
  apply neg_isMultiple
  · apply between_normal
  · apply between_moderate

theorem neg_between_canonical (a b : Instant) : (-between a b).Canonical := by
  have hneg := neg_between_isMultiple a b
  have halong := between_along a b
  apply canonical_of_along
  · exact hneg.normal (Or.inr rfl) (between_normal a b)
  · rcases direction_eq_one_or a b with hd | hd
    · rw [hd] at halong
      exact Or.inr (hneg.along_neg_one halong)
    · rw [hd] at halong
      exact Or.inl (hneg.along_one halong)

theorem between_eq_neg (hmonths : (between a b).totalMonths = -(between b a).totalMonths)
    (hfixed : (between a b).fixedNanos = -(between b a).fixedNanos) :
    between a b = -between b a := by
  have hneg := neg_between_isMultiple b a
  apply (between_canonical a b).eq_of_totals_eq (neg_between_canonical b a)
  · rw [hneg.totalMonths (Or.inr rfl)]
    omega
  · rw [hneg.fixedNanos (Or.inr rfl)]
    omega

theorem between_eq_neg_of_close (h : (b.nanos - a.nanos).natAbs < 28 * nanosPerDay) :
    between a b = -between b a := by
  have ⟨hmonths, hfixed⟩ := (isFarthest_zero_of_close h).totals
  have hsymm : (a.nanos - b.nanos).natAbs < 28 * nanosPerDay := by omega
  have ⟨hmonths', hfixed'⟩ := (isFarthest_zero_of_close hsymm).totals
  apply between_eq_neg <;> omega

theorem between_eq_neg_of_same_day (hday : b.date.day = a.date.day)
    (htime : b.timeOfDay = a.timeOfDay) : between a b = -between b a := by
  have hforth := Instant.nanos_eq_nanosAfterMonths hday htime
  have hback := Instant.nanos_eq_nanosAfterMonths hday.symm htime.symm
  have ⟨hmonths, hfixed⟩ := (isFarthest_of_nanos_eq hforth).totals
  have ⟨hmonths', hfixed'⟩ := (isFarthest_of_nanos_eq hback).totals
  apply between_eq_neg <;> omega

theorem totalMonths_between_swap (ha : a.date.day ≤ 28) (hb : b.date.day ≤ 28) :
    (between a b).totalMonths = -(between b a).totalMonths := by
  by_cases heq : a = b
  · cases heq
    have hself := (isFarthest_of_nanos_eq (a := a) (b := a) (n := 0) (by simp)).totals
    omega
  · obtain ⟨anchor, hfar⟩ := (wholeMonths_isFarthest a b).swap ha hb heq
    rw [totalMonths_between]
    rw [hfar.totals.1]
    omega

/--
The ends of a span can change places, which makes it its negative, if they are less than 28 days
apart or on the same day and time of two months. If no day comes after the 28th, this goes for years
and months, though not for what is left over.
-/
theorem between_swap (a b : Instant) :
    ((b.nanos - a.nanos).natAbs < 28 * nanosPerDay → between a b = -between b a)
      ∧ (∀ n, a.addMonths? n = some b → b.date.day = a.date.day → between a b = -between b a)
      ∧ (a.date.day ≤ 28 → b.date.day ≤ 28 →
          (between a b).years.toInt = -(between b a).years.toInt
            ∧ (between a b).months.toInt = -(between b a).months.toInt) := by
  refine ⟨?_, ?_, ?_⟩
  · exact between_eq_neg_of_close
  · intro n hshift hday
    exact between_eq_neg_of_same_day hday (Instant.timeOfDay_of_addMonths? hshift)
  · intro ha hb
    have hmonths := totalMonths_between_swap ha hb
    unfold totalMonths at hmonths
    apply (between_canonical a b).months.eq_of_eq (between_canonical b a).months.neg
    omega

/--
January 31 and a nanosecond before February 28, January 31 and March 31, and January 15 and March 10,
whose spans leave 23 days in one direction and 26 in the other.
-/
theorem between_swap_winter :
    let start : Instant := ⟨1643587200 * 1000000000, by omega, by omega⟩
    let close : Instant := ⟨1646006400 * 1000000000 - 1, by omega, by omega⟩
    let later : Instant := ⟨1648684800 * 1000000000, by omega, by omega⟩
    let a : Instant := ⟨1642204800 * 1000000000, by omega, by omega⟩
    let b : Instant := ⟨1646870400 * 1000000000, by omega, by omega⟩
    ((close.nanos - start.nanos).natAbs < 28 * nanosPerDay
        ∧ between start close = -between close start)
      ∧ (start.addMonths? 2 = some later ∧ later.date.day = start.date.day
        ∧ between start later = -between later start)
      ∧ (a.date.day ≤ 28 ∧ b.date.day ≤ 28
        ∧ (between a b).months.toInt = -(between b a).months.toInt
        ∧ (between a b).days.toInt ≠ -(between b a).days.toInt) := by
  intro start close later a b
  have hclose : (close.nanos - start.nanos).natAbs < 28 * nanosPerDay := by decide
  have hlater : start.addMonths? 2 = some later := by decide +kernel
  have hday : later.date.day = start.date.day := by decide +kernel
  have ha : a.date.day ≤ 28 := by decide +kernel
  have hb : b.date.day ≤ 28 := by decide +kernel
  have ⟨_, hmonths⟩ := (between_swap a b).2.2 ha hb
  refine ⟨⟨hclose, ?_⟩, ⟨hlater, hday, ?_⟩, ha, hb, hmonths, ?_⟩
  · exact (between_swap start close).1 hclose
  · exact (between_swap start later).2.1 2 hlater hday
  · decide +kernel

-- At 28 days January 31 and February 28 are a month apart, but not the other way round.
example :
    let a : Instant := ⟨1643587200 * 1000000000, by omega, by omega⟩
    let b : Instant := ⟨1646006400 * 1000000000, by omega, by omega⟩
    between a b = ofParts 0 1 0 0 0 0 ∧ between b a = ofParts 0 0 (-28) 0 0 0 := by
  decide +kernel

end Span

end TimeMarkup
