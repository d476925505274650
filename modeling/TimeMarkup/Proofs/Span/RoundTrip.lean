import TimeMarkup.Proofs.Span.Apply
import TimeMarkup.Proofs.Span.Between

/-!
This module contains the round trip of spans: the span between two instants leads from the one to
the other, to the nanosecond and without a step that fails on the way.
-/

namespace TimeMarkup

namespace Span

theorem addTo?_between (start stop : Instant) : (between start stop).addTo? start = some stop := by
  have hreached := (wholeMonths_isFarthest start stop).reached
  rw [addTo?_eq_some_iff (between_normal start stop)]
  rw [totalMonths_between]
  rw [fixedNanos_between]
  constructor
  · rw [hreached]
    rfl
  · rw [Instant.addMonths?_eq_some_iff] at hreached
    omega

theorem elapsedAt_of_addTo?_eq_some {s : Span} {a b : Instant} (h : s.addTo? a = some b) :
    s.elapsedAt a = .ok (a.elapsedTo b) := by
  unfold elapsedAt
  rw [h]

/--
The months fit any number of 32 bits, the shift by them, the fixed part and the final sum all
succeed, and the last is exact.
-/
theorem between_round_trip (start stop : Instant) :
    (between start stop).totalMonths.natAbs ≤ 6291431
      ∧ (∃ shifted rest, start.addMonths? (between start stop).totalMonths = some shifted
        ∧ (between start stop).fixedPart? = some rest ∧ shifted.add? rest = some stop)
      ∧ (between start stop).addTo? start = some stop
      ∧ ∃ e, (between start stop).elapsedAt start = .ok e ∧ e.nanos = stop.nanos - start.nanos := by
  have hround := addTo?_between start stop
  refine ⟨?_, ?_, hround, start.elapsedTo stop, ?_, ?_⟩
  · apply totalMonths_between_natAbs_le
  · rw [← addTo?_eq_some_iff_steps (between_normal start stop)]
    exact hround
  · exact elapsedAt_of_addTo?_eq_some hround
  · rfl

end Span

end TimeMarkup
