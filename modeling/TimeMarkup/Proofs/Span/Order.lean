import TimeMarkup.Proofs.Span.Greedy

/-!
This module contains the order of spans that start together. The main statement says that spans to
later instants are larger, if their amounts are compared from the years to the nanoseconds.
-/

namespace TimeMarkup

namespace Span

variable {start e₁ e₂ : Instant}

-- With the same number of months both spans go on from the same instant.
theorem totals_between_lt (h : e₁ < e₂) :
    (between start e₁).totalMonths < (between start e₂).totalMonths
      ∨ ((between start e₁).totalMonths = (between start e₂).totalMonths
        ∧ (between start e₁).fixedNanos < (between start e₂).fixedNanos) := by
  have hle : (wholeMonths start e₁).1 ≤ (wholeMonths start e₂).1 := by
    apply (wholeMonths_isFarthest start e₁).le_of_le (wholeMonths_isFarthest start e₂)
    exact Int.le_of_lt h
  rw [totalMonths_between, totalMonths_between]
  rw [fixedNanos_between, fixedNanos_between]
  cases Int.lt_or_eq_of_le hle with
  | inl hlt => exact Or.inl hlt
  | inr heq =>
    have hreached₁ := (wholeMonths_isFarthest start e₁).reached
    have hreached₂ := (wholeMonths_isFarthest start e₂).reached
    rw [heq] at hreached₁
    rw [hreached₁] at hreached₂
    have hanchor := Option.some.inj hreached₂
    rw [Instant.lt_def] at h
    rw [hanchor]
    exact Or.inr ⟨heq, by omega⟩

theorem amounts_between_lt (h : e₁ < e₂) :
    (between start e₁).amounts < (between start e₂).amounts := by
  apply (between_canonical start e₁).amounts_lt (between_canonical start e₂)
  exact totals_between_lt h

theorem between_ne_of_lt (h : e₁ < e₂) : between start e₁ ≠ between start e₂ := by
  intro heq
  have hlt : (between start e₁).amounts < (between start e₂).amounts := amounts_between_lt h
  rw [heq] at hlt
  exact List.lt_irrefl _ hlt

/--
A later end makes a larger span, whether the ends lie before or after the start, and only equal ends
make equal spans.
-/
theorem amounts_between_lt_iff (start e₁ e₂ : Instant) :
    ((between start e₁).amounts < (between start e₂).amounts ↔ e₁ < e₂)
      ∧ (between start e₁ = between start e₂ ↔ e₁ = e₂) := by
  constructor
  · constructor
    · intro hlt
      apply Int.not_le.mp
      intro hle
      cases Int.lt_or_eq_of_le hle with
      | inl hgt => exact List.lt_asymm hlt (amounts_between_lt hgt)
      | inr heq =>
        cases Instant.ext heq
        exact List.lt_irrefl _ hlt
    · exact amounts_between_lt
  · constructor
    · intro heq
      apply Instant.ext
      apply Int.le_antisymm
      · exact Int.not_lt.mp fun hgt => between_ne_of_lt hgt heq.symm
      · exact Int.not_lt.mp fun hlt => between_ne_of_lt hlt heq
    · exact congrArg (between start)

end Span

end TimeMarkup
