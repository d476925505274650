import TimeMarkup.Proofs.Span.Canonical
import TimeMarkup.Proofs.Span.RoundTrip

/-!
This module contains the signs of the span between two instants. The main statements say that they
tell which of the instants is the later one, and that only the span from an instant to itself is
empty.
-/

namespace TimeMarkup

namespace Span

variable {d : Int} {s : Span} {start stop : Instant}

theorem along_iff_amounts : s.Along d ↔ ∀ n ∈ s.amounts, 0 ≤ d * n := by
  unfold amounts
  constructor
  · intro ⟨hyears, hmonths, hdays, hhours, hminutes, hseconds, hnanos⟩ n hn
    simp only [List.mem_cons, List.not_mem_nil, or_false] at hn
    rcases hn with rfl | rfl | rfl | rfl | rfl | rfl | rfl <;> assumption
  · intro h
    constructor <;> apply h <;> simp

theorem along_one_iff_amounts : s.Along 1 ↔ ∀ n ∈ s.amounts, 0 ≤ n := by
  rw [along_iff_amounts]
  simp only [Int.one_mul]

theorem along_neg_one_iff_amounts : s.Along (-1) ↔ ∀ n ∈ s.amounts, n ≤ 0 := by
  rw [along_iff_amounts]
  simp only [Int.neg_one_mul, Int.neg_nonneg]

theorem eq_zero_of_along (hd : d = 1 ∨ d = -1) (h : s.Along d) (hneg : s.Along (-d)) :
    s = zero := by
  have ⟨_, _, _, _, _, _, _⟩ := h
  have ⟨_, _, _, _, _, _, _⟩ := hneg
  apply eq_of_toInt_eq
  all_goals
    unfold zero
    rw [Int64.toInt_zero]
    rcases hd with rfl | rfl <;> omega

theorem addTo?_zero (i : Instant) : zero.addTo? i = some i := by
  rw [addTo?_eq_some_iff zero_normal]
  have hmonths : zero.totalMonths = 0 := by decide
  have hfixed : zero.fixedNanos = 0 := by decide
  rw [hmonths, hfixed]
  have hnanos := Instant.nanosAfterMonths_zero i
  constructor
  · exact Instant.addMonths?_isSome_of_nanosAfterMonths hnanos.symm
  · omega

theorem wholeMonths_self (i : Instant) : wholeMonths i i = (0, i) := by
  unfold wholeMonths
  rw [Int.sub_self]
  rfl

theorem between_self (i : Instant) : between i i = zero := by
  have hrest : i.elapsedTo i = ⟨0, by decide, by decide⟩ := by
    unfold Instant.elapsedTo
    simp only [Int.sub_self]
  unfold between
  rw [wholeMonths_self]
  dsimp only
  rw [hrest]
  decide

theorem between_eq_zero_iff : between start stop = zero ↔ start = stop := by
  constructor
  · intro h
    have hround := addTo?_between start stop
    rw [h, addTo?_zero] at hround
    exact Option.some.inj hround
  · rintro rfl
    apply between_self

-- Against the direction of the instants a span has no amount left, and then they are the same.
theorem between_along_iff (hd : d = 1 ∨ d = -1) :
    (between start stop).Along d ↔ 0 ≤ d * (stop.nanos - start.nanos) := by
  have halong := between_along start stop
  have hdirection := direction_eq start stop
  by_cases hsame : direction start stop = d
  · rw [hsame] at halong
    apply iff_of_true halong
    rcases hd with rfl | rfl <;> omega
  · have hopposite : direction start stop = -d := by omega
    rw [hopposite] at halong
    constructor
    · intro h
      have heq := between_eq_zero_iff.mp (eq_zero_of_along hd h halong)
      rw [heq]
      simp
    · intro hle
      have heq : start = stop := by
        apply Instant.ext
        rcases hd with rfl | rfl <;> omega
      rw [heq, between_self]
      apply zero_along

theorem amounts_between_nonneg_iff :
    (∀ n ∈ (between start stop).amounts, 0 ≤ n) ↔ start ≤ stop := by
  rw [← along_one_iff_amounts]
  rw [between_along_iff (Or.inl rfl)]
  rw [Instant.le_def]
  omega

theorem amounts_between_nonpos_iff :
    (∀ n ∈ (between start stop).amounts, n ≤ 0) ↔ stop ≤ start := by
  rw [← along_neg_one_iff_amounts]
  rw [between_along_iff (Or.inr rfl)]
  rw [Instant.le_def]
  omega

end Span

end TimeMarkup
