import TimeMarkup.Proofs.Span.Carry
import TimeMarkup.Proofs.Span.WholeMonths

/-!
This module contains the totals of the span between two instants. The main statements say that its
months are the whole months, that its fixed length is what they leave over, and that carrying these
two loses nothing.
-/

namespace TimeMarkup

namespace Span

def uncarried (start stop : Instant) : Span :=
  let rest := (wholeMonths start stop).2.elapsedTo stop
  { zero with
    months := Amount.clamp (wholeMonths start stop).1
    seconds := Amount.clamp rest.seconds
    nanoseconds := Amount.clamp rest.subsecond }

theorem between_eq_carry (start stop : Instant) :
    between start stop = (uncarried start stop).carry := rfl

theorem uncarried_zeros (start stop : Instant) :
    (uncarried start stop).years.toInt = 0 ∧ (uncarried start stop).days.toInt = 0
      ∧ (uncarried start stop).hours.toInt = 0 ∧ (uncarried start stop).minutes.toInt = 0 :=
  ⟨rfl, rfl, rfl, rfl⟩

theorem wholeMonths_natAbs_le (start stop : Instant) :
    (wholeMonths start stop).1.natAbs ≤ 6291431 := by
  have hreached := (wholeMonths_isFarthest start stop).reached
  have hsome := (Instant.addMonths?_isSome_iff start (wholeMonths start stop).1).mp
    (Option.isSome_iff_exists.mpr ⟨_, hreached⟩)
  have := Instant.index_bounds start
  omega

theorem uncarried_months_toInt (start stop : Instant) :
    (uncarried start stop).months.toInt = (wholeMonths start stop).1 := by
  have := wholeMonths_natAbs_le start stop
  apply Amount.clamp_toInt_of_le <;> omega

theorem uncarried_seconds_natAbs_le (start stop : Instant) :
    ((wholeMonths start stop).2.elapsedTo stop).seconds.natAbs ≤ 16544868105600 := by
  have h₁ := (wholeMonths start stop).2.min_le
  have h₂ := (wholeMonths start stop).2.le_max
  have h₃ := stop.min_le
  have h₄ := stop.le_max
  have hsum := (truncates_tdiv_tmod (stop.nanos - (wholeMonths start stop).2.nanos)
    (b := 1000000000) (by omega)).sum
  have hrest := natAbs_tmod_le (stop.nanos - (wholeMonths start stop).2.nanos)
    (b := 1000000000) (by omega)
  simp only [Elapsed.seconds, Instant.elapsedTo, nanosPerSecond]
  omega

theorem uncarried_seconds_toInt (start stop : Instant) :
    (uncarried start stop).seconds.toInt
      = (stop.nanos - (wholeMonths start stop).2.nanos).tdiv 1000000000 := by
  have := uncarried_seconds_natAbs_le start stop
  apply Amount.clamp_toInt_of_le <;> omega

theorem uncarried_nanoseconds_toInt (start stop : Instant) :
    (uncarried start stop).nanoseconds.toInt
      = (stop.nanos - (wholeMonths start stop).2.nanos).tmod 1000000000 := by
  have : ((wholeMonths start stop).2.elapsedTo stop).subsecond.natAbs ≤ 999999999 :=
    natAbs_tmod_le _ (by decide)
  apply Amount.clamp_toInt_of_le <;> omega

theorem uncarried_sumsFit (start stop : Instant) : (uncarried start stop).SumsFit := by
  have ⟨hyears, hdays, hhours, hminutes⟩ := uncarried_zeros start stop
  apply sumsFit_of_natAbs_le
  · omega
  · omega
  · omega
  · omega
  · have := uncarried_seconds_natAbs_le start stop
    rw [uncarried_seconds_toInt]
    simp only [Elapsed.seconds, Instant.elapsedTo, nanosPerSecond] at this
    omega

theorem uncarried_along (start stop : Instant) :
    (uncarried start stop).Along (direction start stop) := by
  have hfar := wholeMonths_isFarthest start stop
  have htoward := hfar.toward
  have hrest := hfar.not_beyond
  have ⟨_, hpos, hneg⟩ :=
    truncates_tdiv_tmod (stop.nanos - (wholeMonths start stop).2.nanos) (b := 1000000000) (by omega)
  have ⟨hyears, hdays, hhours, hminutes⟩ := uncarried_zeros start stop
  constructor
  · rw [hyears]
    omega
  · rw [uncarried_months_toInt]
    exact htoward
  · rw [hdays]
    omega
  · rw [hhours]
    omega
  · rw [hminutes]
    omega
  · rw [uncarried_seconds_toInt]
    rcases direction_eq start stop with ⟨hd, _⟩ | ⟨hd, _⟩ <;> rw [hd] at hrest ⊢ <;> omega
  · rw [uncarried_nanoseconds_toInt]
    rcases direction_eq start stop with ⟨hd, _⟩ | ⟨hd, _⟩ <;> rw [hd] at hrest ⊢ <;> omega

theorem between_normal (start stop : Instant) : (between start stop).Normal := by
  rw [between_eq_carry]
  apply carry_normal

theorem between_along (start stop : Instant) :
    (between start stop).Along (direction start stop) := by
  rw [between_eq_carry]
  apply carry_along
  · rcases direction_eq start stop with ⟨hd, _⟩ | ⟨hd, _⟩
    · exact Or.inr hd
    · exact Or.inl hd
  · apply uncarried_along

theorem totalMonths_between (start stop : Instant) :
    (between start stop).totalMonths = (wholeMonths start stop).1 := by
  rw [between_eq_carry]
  rw [(uncarried_sumsFit start stop).totalMonths_carry]
  have ⟨hyears, _⟩ := uncarried_zeros start stop
  unfold totalMonths
  rw [uncarried_months_toInt]
  omega

theorem totalMonths_between_natAbs_le (start stop : Instant) :
    (between start stop).totalMonths.natAbs ≤ 6291431 := by
  rw [totalMonths_between]
  apply wholeMonths_natAbs_le

theorem fixedNanos_between (start stop : Instant) :
    (between start stop).fixedNanos = stop.nanos - (wholeMonths start stop).2.nanos := by
  have hsum := (truncates_tdiv_tmod (stop.nanos - (wholeMonths start stop).2.nanos)
    (b := 1000000000) (by omega)).sum
  have ⟨_, hdays, hhours, hminutes⟩ := uncarried_zeros start stop
  rw [between_eq_carry]
  rw [(uncarried_sumsFit start stop).fixedNanos_carry]
  unfold fixedNanos nanosPerSecond
  rw [uncarried_seconds_toInt]
  rw [uncarried_nanoseconds_toInt]
  rw [hdays]
  rw [hhours]
  rw [hminutes]
  omega

end Span

end TimeMarkup
