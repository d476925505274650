import TimeMarkup.Proofs.Span.Canonical
import TimeMarkup.Proofs.Span.Reachable

/-!
This module contains the laws of negation and absolute value. The main statement says that a span
that can be built is its double negation unless its years or days are the least amount, which has no
negative, and that the other laws hold without exception.
-/

namespace TimeMarkup

namespace Amount

theorem negClamped_negClamped_toInt (a : Amount) :
    a.negClamped.negClamped.toInt = max (-9223372036854775807) a.toInt := by
  have := a.toInt_lt
  rw [negClamped_toInt]
  rw [negClamped_toInt]
  omega

theorem negClamped_negClamped_eq_iff (a : Amount) :
    a.negClamped.negClamped = a ↔ a ≠ Int64.minValue := by
  have hleast : Int64.minValue.toInt = -9223372036854775808 := Int64.toInt_minValue
  have hlow := a.le_toInt
  rw [ne_eq]
  rw [← Int64.toInt_inj]
  rw [← Int64.toInt_inj]
  rw [negClamped_negClamped_toInt]
  omega

theorem absClamped_negClamped (a : Amount) : a.negClamped.absClamped = a.absClamped := by
  have := a.le_toInt
  rw [← Int64.toInt_inj]
  rw [absClamped_toInt]
  rw [absClamped_toInt]
  rw [negClamped_toInt]
  omega

theorem absClamped_toInt_nonneg (a : Amount) : 0 ≤ a.absClamped.toInt := by
  rw [absClamped_toInt]
  omega

theorem absClamped_absClamped (a : Amount) : a.absClamped.absClamped = a.absClamped := by
  have := a.absClamped.toInt_lt
  have := a.absClamped_toInt_nonneg
  rw [← Int64.toInt_inj]
  rw [absClamped_toInt]
  omega

theorem negClamped_eq_zero_iff (a : Amount) : a.negClamped = 0 ↔ a = 0 := by
  have := a.le_toInt
  rw [← Int64.toInt_inj]
  rw [← Int64.toInt_inj]
  rw [negClamped_toInt]
  rw [Int64.toInt_zero]
  omega

theorem ne_minValue_of_natAbs_le {a : Amount} (h : a.toInt.natAbs ≤ 999999999) :
    a ≠ Int64.minValue := by
  rintro rfl
  contradiction

end Amount

namespace Span

theorem neg_neg_eq_map (s : Span) : - -s = s.map fun a => a.negClamped.negClamped := by
  rfl

theorem abs_neg_eq_map (s : Span) : (-s).abs = s.map fun a => a.negClamped.absClamped := by
  rfl

theorem abs_abs_eq_map (s : Span) : s.abs.abs = s.map fun a => a.absClamped.absClamped := by
  rfl

theorem map_eq_self_iff {f : Amount → Amount} {s : Span} :
    s.map f = s ↔ f s.years = s.years ∧ f s.months = s.months ∧ f s.days = s.days
      ∧ f s.hours = s.hours ∧ f s.minutes = s.minutes ∧ f s.seconds = s.seconds
      ∧ f s.nanoseconds = s.nanoseconds := by
  cases s
  simp only [map, mk.injEq]

theorem map_eq_zero_iff {f : Amount → Amount} (h : ∀ a, f a = 0 ↔ a = 0) {s : Span} :
    s.map f = zero ↔ s = zero := by
  cases s
  simp only [map, zero, mk.injEq, h]

theorem neg_neg_eq_iff_of_normal {s : Span} (hs : s.Normal) :
    - -s = s ↔ s.years ≠ Int64.minValue ∧ s.days ≠ Int64.minValue := by
  have ⟨hmonths, hhours, hminutes, hseconds, hnanos⟩ := hs
  rw [neg_neg_eq_map]
  rw [map_eq_self_iff]
  simp only [Amount.negClamped_negClamped_eq_iff]
  constructor
  · intro ⟨hyears, _, hdays, _⟩
    exact ⟨hyears, hdays⟩
  · intro ⟨hyears, hdays⟩
    -- Only years and days of a carried span are without a bound.
    refine ⟨hyears, ?_, hdays, ?_, ?_, ?_, ?_⟩
    all_goals
      apply Amount.ne_minValue_of_natAbs_le
      omega

theorem integers_neg_neg (s : Span) :
    (- -s).integers = s.integers.map (max (-9223372036854775807)) := by
  rw [neg_neg_eq_map]
  apply integers_map
  exact Amount.negClamped_negClamped_toInt

theorem abs_neg (s : Span) : (-s).abs = s.abs := by
  rw [abs_neg_eq_map]
  rw [funext Amount.absClamped_negClamped]
  rfl

theorem abs_abs (s : Span) : s.abs.abs = s.abs := by
  rw [abs_abs_eq_map]
  rw [funext Amount.absClamped_absClamped]
  rfl

theorem nonneg_of_mem_amounts_abs {s : Span} {n : Int} (h : n ∈ s.abs.amounts) : 0 ≤ n := by
  unfold abs map amounts at h
  simp only [List.mem_cons, List.not_mem_nil, or_false] at h
  rcases h with rfl | rfl | rfl | rfl | rfl | rfl | rfl <;> apply Amount.absClamped_toInt_nonneg

theorem isZero_neg (s : Span) : (-s).isZero = s.isZero := by
  unfold isZero
  rw [decide_eq_decide]
  exact map_eq_zero_iff Amount.negClamped_eq_zero_iff

/--
Negating a span twice gives it back unless its years or days are the least amount, which comes back
one larger. The absolute value ignores the sign, settles after one step and has no amount below
zero, and a span is empty exactly if its negation is.
-/
theorem neg_neg_eq_iff {s : Span} (h : Reachable s) :
    (- -s = s ↔ s.years ≠ Int64.minValue ∧ s.days ≠ Int64.minValue)
      ∧ (- -s).integers = s.integers.map (max (-9223372036854775807))
      ∧ (-s).abs = s.abs
      ∧ s.abs.abs = s.abs
      ∧ (∀ n ∈ s.abs.amounts, 0 ≤ n)
      ∧ (s.isZero ↔ (-s).isZero) := by
  refine ⟨?_, ?_, ?_, ?_, ?_, ?_⟩
  · exact neg_neg_eq_iff_of_normal h.normal
  · exact integers_neg_neg s
  · exact abs_neg s
  · exact abs_abs s
  · intro n hn
    exact nonneg_of_mem_amounts_abs hn
  · rw [isZero_neg]

theorem neg_neg_eq_iff_next_to_least :
    let s := (zero.withYears (-9223372036854775807)).withDays (-9223372036854775807)
    Reachable s ∧ - -s = s ∧ s.abs.years = 9223372036854775807 ∧ (-s).abs = s.abs := by
  intro s
  have hs : Reachable s :=
    .change (.change .zero (.set .years (-9223372036854775807))) (.set .days (-9223372036854775807))
  have ⟨hdouble, _, hneg, _⟩ := neg_neg_eq_iff hs
  exact ⟨hs, hdouble.mpr (by decide), by decide, hneg⟩

theorem neg_neg_ne_least :
    let s := zero.withYears Int64.minValue
    Reachable s ∧ - -s ≠ s ∧ - -s = zero.withYears (-9223372036854775807) := by
  intro s
  exact ⟨.change .zero (.set .years Int64.minValue), by decide, by decide⟩

end Span

end TimeMarkup
