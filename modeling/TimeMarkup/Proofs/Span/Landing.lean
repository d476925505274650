import TimeMarkup.Proofs.Span.Apply
import TimeMarkup.Proofs.Span.Reachable

/-!
This module contains where a span leads to, in terms of integers without bounds. The main statement
says that a span is applied exactly, and that it fails only where its months or all of it lead out
of the range of instants.
-/

namespace TimeMarkup

namespace Date

/-- `e` lies `n` months after `d`, on the same day or on the last one of a month without it. -/
structure IsMonthsAfter (d : Date) (n : Int) (e : Date) : Prop where
  month : 12 * e.year + e.month = 12 * d.year + d.month + n
  day : e.day = min d.day (daysInMonth e.year e.month)

theorem addMonths_isMonthsAfter (d : Date) (n : Int) : d.IsMonthsAfter n (d.addMonths n) where
  month := by
    have hindex := index_addMonths d n
    unfold index monthIndex at hindex
    omega
  day := by
    rw [day_addMonths]
    rw [← index_addMonths]
    rw [monthLength_index]

end Date

namespace Instant

def IsInRange (n : Int) : Prop :=
  first.nanos ≤ n ∧ n ≤ last.nanos

instance (n : Int) : Decidable (IsInRange n) :=
  inferInstanceAs (Decidable (_ ∧ _))

theorem isInRange_nanos (i : Instant) : IsInRange i.nanos :=
  ⟨i.min_le, i.le_max⟩

theorem addMonths?_isSome_iff_isInRange (i : Instant) (n : Int) :
    (i.addMonths? n).isSome ↔ IsInRange (i.nanosAfterMonths n) := by
  rw [addMonths?_isSome_iff]
  rw [← nanosAfterMonths_inRange_iff]
  rfl

end Instant

namespace Span

variable {s : Span} {a b : Instant}

/-- The nanoseconds from the epoch to where `s` leads from `a`, also where that is no instant. -/
def target (s : Span) (a : Instant) : Int :=
  a.nanosAfterMonths s.totalMonths + s.fixedNanos

theorem exists_addTo?_iff (hs : s.Normal) :
    (∃ b, s.addTo? a = some b)
      ↔ Instant.IsInRange (a.nanosAfterMonths s.totalMonths)
          ∧ Instant.IsInRange (s.target a) := by
  simp only [addTo?_eq_some_iff hs]
  rw [← Instant.addMonths?_isSome_iff_isInRange]
  constructor
  · rintro ⟨b, hshift, hb⟩
    refine ⟨hshift, ?_⟩
    unfold target
    rw [← hb]
    exact b.isInRange_nanos
  · rintro ⟨hshift, hlow, hhigh⟩
    exact ⟨⟨s.target a, hlow, hhigh⟩, hshift, rfl⟩

theorem addTo?_eq_none_iff (hs : s.Normal) :
    s.addTo? a = none
      ↔ ¬ (Instant.IsInRange (a.nanosAfterMonths s.totalMonths)
            ∧ Instant.IsInRange (s.target a)) := by
  rw [← exists_addTo?_iff hs]
  rw [Option.eq_none_iff_forall_ne_some]
  exact not_exists.symm

-- The months of a span of one sign do not lead beyond its end.
theorem isInRange_nanosAfterMonths (hsign : s.Along 1 ∨ s.Along (-1))
    (h : Instant.IsInRange (s.target a)) :
    Instant.IsInRange (a.nanosAfterMonths s.totalMonths) := by
  have hzero := a.nanosAfterMonths_zero
  have hends := a.isInRange_nanos
  unfold Instant.IsInRange target at *
  rcases hsign with hsd | hsd
  · have hmonths := hsd.totalMonths_nonneg
    have hfixed := hsd.fixedNanos_nonneg
    have := a.nanosAfterMonths_le (m := 0) (n := s.totalMonths) (by omega)
    omega
  · have hmonths := hsd.totalMonths_nonneg
    have hfixed := hsd.fixedNanos_nonneg
    have := a.nanosAfterMonths_le (m := s.totalMonths) (n := 0) (by omega)
    omega

theorem elapsedAt_eq_ok_iff {e : Elapsed} :
    s.elapsedAt a = .ok e ↔ ∃ b, s.addTo? a = some b ∧ a.elapsedTo b = e := by
  unfold elapsedAt
  cases s.addTo? a with
  | none => simp
  | some b => simp

theorem elapsedAt_of_addTo?_eq_none (h : s.addTo? a = none) :
    s.elapsedAt a = .error (.spanOutOfRange s a) := by
  unfold elapsedAt
  rw [h]

end Span

end TimeMarkup
