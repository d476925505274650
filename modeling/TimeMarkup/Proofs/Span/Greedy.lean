import TimeMarkup.Proofs.Span.Between
import TimeMarkup.Proofs.Span.Canonical
import TimeMarkup.Proofs.Span.Sign

/-!
This module contains the greedy decomposition of the distance between two instants: as many whole
months as fit, and then days, hours, minutes, seconds and nanoseconds, each smaller than the next
unit and all of one sign. The main statement says that there is exactly one and that it is the span
between the instants.
-/

namespace TimeMarkup

namespace Span

/-- `s` takes as many months from `start` toward `stop` as fit, and makes up the rest exactly. -/
structure IsGreedy (start stop : Instant) (s : Span) : Prop where
  forward : start ≤ stop → s.Along 1
  backward : stop < start → s.Along (-1)
  anchored : ∃ anchor, start.addMonths? s.totalMonths = some anchor
    ∧ (start ≤ stop → anchor ≤ stop) ∧ (stop < start → stop ≤ anchor)
    ∧ s.fixedNanos = stop.nanos - anchor.nanos
  month_after : start ≤ stop →
    ∀ i, start.addMonths? (s.totalMonths + 1) = some i → stop < i
  month_before : stop < start →
    ∀ i, start.addMonths? (s.totalMonths - 1) = some i → i < stop
  normal : s.Normal
  days : s.days.toInt.natAbs ≤ 30

theorem fixedNanos_between_natAbs_lt (start stop : Instant) :
    (between start stop).fixedNanos.natAbs < 31 * 86400000000000 := by
  have hfar := wholeMonths_isFarthest start stop
  have hreached := Instant.addMonths?_eq_some_iff.mp hfar.reached
  have hrest := hfar.not_beyond
  have hbeyond := hfar.beyond
  rw [fixedNanos_between]
  rcases direction_eq start stop with ⟨hd, _⟩ | ⟨hd, _⟩
  · have hgap := Instant.nanosAfterMonths_add_one_bounds start ((wholeMonths start stop).1 - 1)
    rw [Int.sub_add_cancel] at hgap
    rw [hd] at hrest hbeyond
    rw [show (wholeMonths start stop).1 + -1 = (wholeMonths start stop).1 - 1 by omega] at hbeyond
    unfold nanosPerDay at hgap
    omega
  · have hgap := Instant.nanosAfterMonths_add_one_bounds start (wholeMonths start stop).1
    rw [hd] at hrest hbeyond
    unfold nanosPerDay at hgap
    omega

theorem days_between_natAbs_le (start stop : Instant) :
    (between start stop).days.toInt.natAbs ≤ 30 := by
  have hlt := fixedNanos_between_natAbs_lt start stop
  have ⟨_, _, hdays, hhours, hminutes, hseconds, hnanos⟩ := between_along start stop
  unfold fixedNanos nanosPerDay nanosPerHour nanosPerMinute nanosPerSecond at hlt
  rcases direction_eq start stop with ⟨hd, _⟩ | ⟨hd, _⟩
  · rw [hd] at hdays hhours hminutes hseconds hnanos
    omega
  · rw [hd] at hdays hhours hminutes hseconds hnanos
    omega

theorem between_moderate (start stop : Instant) : (between start stop).Moderate := by
  have hmonths := (between_normal start stop).months
  have htotal := totalMonths_between_natAbs_le start stop
  have hdays := days_between_natAbs_le start stop
  unfold totalMonths at htotal
  constructor <;> omega

theorem isGreedy_of_isFarthest {start stop anchor : Instant} {s : Span}
    (hfar : IsFarthest start stop s.totalMonths anchor) (hsd : s.Along (direction start stop))
    (hrest : s.fixedNanos = stop.nanos - anchor.nanos) (hs : s.Normal)
    (hdays : s.days.toInt.natAbs ≤ 30) : IsGreedy start stop s := by
  have hanchor := hfar.not_beyond
  have hbeyond := hfar.beyond
  constructor
  case forward =>
    intro hle
    rw [Instant.le_def] at hle
    rcases direction_eq start stop with ⟨hd, hlt⟩ | ⟨hd, _⟩
    · omega
    · rwa [hd] at hsd
  case backward =>
    intro hlt
    rw [Instant.lt_def] at hlt
    rcases direction_eq start stop with ⟨hd, _⟩ | ⟨hd, hle⟩
    · rwa [hd] at hsd
    · omega
  case anchored =>
    refine ⟨anchor, hfar.reached, ?_, ?_, hrest⟩
    · simp only [Instant.le_def]
      rcases direction_eq start stop with ⟨hd, _⟩ | ⟨hd, _⟩ <;> rw [hd] at hanchor <;> omega
    · simp only [Instant.le_def, Instant.lt_def]
      rcases direction_eq start stop with ⟨hd, _⟩ | ⟨hd, _⟩ <;> rw [hd] at hanchor <;> omega
  case month_after =>
    intro hle i hi
    rw [Instant.le_def] at hle
    rw [Instant.addMonths?_eq_some_iff] at hi
    rw [Instant.lt_def]
    rcases direction_eq start stop with ⟨_, hlt⟩ | ⟨hd, _⟩
    · omega
    · rw [hd] at hbeyond
      omega
  case month_before =>
    intro hlt i hi
    rw [Instant.lt_def] at hlt
    rw [Instant.addMonths?_eq_some_iff] at hi
    rw [Instant.lt_def]
    rcases direction_eq start stop with ⟨hd, _⟩ | ⟨_, hle⟩
    · rw [hd] at hbeyond
      rw [show s.totalMonths + -1 = s.totalMonths - 1 by omega] at hbeyond
      omega
    · omega
  case normal => exact hs
  case days => exact hdays

theorem between_isGreedy (start stop : Instant) :
    IsGreedy start stop (between start stop) := by
  have hfar := wholeMonths_isFarthest start stop
  rw [← totalMonths_between] at hfar
  apply isGreedy_of_isFarthest hfar
  · apply between_along
  · apply fixedNanos_between
  · apply between_normal
  · apply days_between_natAbs_le

theorem IsGreedy.canonical {start stop : Instant} {s : Span} (h : IsGreedy start stop s) :
    s.Canonical := by
  apply canonical_of_along h.normal
  by_cases hdir : start ≤ stop
  · exact Or.inl (h.forward hdir)
  · exact Or.inr (h.backward (Int.not_le.mp hdir))

theorem between_canonical (start stop : Instant) : (between start stop).Canonical :=
  (between_isGreedy start stop).canonical

theorem addMonths?_isSome_of_between {a : Instant} {m n k : Int} (hm : (a.addMonths? m).isSome)
    (hn : (a.addMonths? n).isSome) (hmk : m ≤ k) (hkn : k ≤ n) : (a.addMonths? k).isSome := by
  rw [Instant.addMonths?_isSome_iff] at *
  omega

-- Fewer months would leave room for one more, which by the other decomposition is not too far yet.
theorem IsGreedy.totalMonths_le {start stop : Instant} {s t : Span} (hs : IsGreedy start stop s)
    (ht : IsGreedy start stop t) : s.totalMonths ≤ t.totalMonths := by
  obtain ⟨a, ha, ha₁, ha₂, _⟩ := hs.anchored
  obtain ⟨b, hb, hb₁, hb₂, _⟩ := ht.anchored
  have hasome := Option.isSome_iff_exists.mpr ⟨a, ha⟩
  have hbsome := Option.isSome_iff_exists.mpr ⟨b, hb⟩
  rw [Instant.addMonths?_eq_some_iff] at ha hb
  apply Int.not_lt.mp
  intro hlt
  by_cases hdir : start ≤ stop
  · have hafter := ht.month_after hdir
    have hstop := ha₁ hdir
    have hnext : (start.addMonths? (t.totalMonths + 1)).isSome :=
      addMonths?_isSome_of_between hbsome hasome (by omega) (by omega)
    obtain ⟨i, hi⟩ := Option.isSome_iff_exists.mp hnext
    have hpast := hafter i hi
    rw [Instant.addMonths?_eq_some_iff] at hi
    have := Instant.nanosAfterMonths_le start (m := t.totalMonths + 1) (n := s.totalMonths)
      (by omega)
    rw [Instant.le_def] at hstop
    rw [Instant.lt_def] at hpast
    omega
  · have hdir : stop < start := by
      rw [Instant.lt_def]
      rw [Instant.le_def] at hdir
      omega
    have hbefore := hs.month_before hdir
    have hstop := hb₂ hdir
    have hnext : (start.addMonths? (s.totalMonths - 1)).isSome :=
      addMonths?_isSome_of_between hbsome hasome (by omega) (by omega)
    obtain ⟨i, hi⟩ := Option.isSome_iff_exists.mp hnext
    have hpast := hbefore i hi
    rw [Instant.addMonths?_eq_some_iff] at hi
    have := Instant.nanosAfterMonths_le start (m := t.totalMonths) (n := s.totalMonths - 1)
      (by omega)
    rw [Instant.le_def] at hstop
    rw [Instant.lt_def] at hpast
    omega

theorem IsGreedy.eq {start stop : Instant} {s t : Span} (hs : IsGreedy start stop s)
    (ht : IsGreedy start stop t) : s = t := by
  have hmonths : s.totalMonths = t.totalMonths := by
    apply Int.le_antisymm
    · exact hs.totalMonths_le ht
    · exact ht.totalMonths_le hs
  obtain ⟨a, ha, _, _, hsrest⟩ := hs.anchored
  obtain ⟨b, hb, _, _, htrest⟩ := ht.anchored
  rw [hmonths] at ha
  rw [ha] at hb
  cases hb
  have hfixed : s.fixedNanos = t.fixedNanos := by omega
  exact hs.canonical.eq_of_totals_eq ht.canonical hmonths hfixed

theorem between_unique_greedy (start stop : Instant) :
    IsGreedy start stop (between start stop)
      ∧ ∀ s, IsGreedy start stop s → s = between start stop := by
  constructor
  · apply between_isGreedy
  · intro s hs
    exact hs.eq (between_isGreedy start stop)

end Span

end TimeMarkup
