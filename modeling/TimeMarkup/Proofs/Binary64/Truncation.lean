import Mathlib.Algebra.Order.Field.Power
import Mathlib.Data.Rat.Floor
import Mathlib.Tactic.Positivity
import TimeMarkup.Timestamp.Basic

/-!
This module contains the exact value of a floating-point number and how it is cut off toward zero.
The main statement says that `wholeSeconds` is the exact value without its fraction, and that it
exists if and only if that is an amount.
-/

namespace TimeMarkup

def truncate (q : ℚ) : Int :=
  if 0 ≤ q then ⌊q⌋ else ⌈q⌉

theorem truncate_of_nonneg {q : ℚ} (h : 0 ≤ q) : truncate q = ⌊q⌋ :=
  if_pos h

theorem truncate_neg (q : ℚ) : truncate (-q) = -truncate q := by
  unfold truncate
  rcases lt_trichotomy q 0 with hq | rfl | hq
  · rw [if_pos (neg_nonneg.mpr hq.le), if_neg hq.not_ge, Int.floor_neg]
  · simp
  · rw [if_neg (neg_neg_iff_pos.mpr hq).not_ge, if_pos hq.le, Int.ceil_neg]

theorem truncate_mono {q r : ℚ} (h : q ≤ r) : truncate q ≤ truncate r := by
  unfold truncate
  split
  · next hq =>
    rw [if_pos (hq.trans h)]
    exact Int.floor_le_floor h
  · next hq =>
    split
    · next hr =>
      have hlow : ⌈q⌉ ≤ 0 := Int.ceil_le.mpr (by simpa using (not_le.mp hq).le)
      exact hlow.trans (Int.floor_nonneg.mpr hr)
    · exact Int.ceil_le_ceil h

theorem truncate_div (a : Int) (b : Nat) : truncate ((a : ℚ) / b) = a.tdiv b := by
  have hnonneg (n : Nat) : truncate ((n : ℚ) / b) = (n : Int).tdiv b := by
    rw [truncate_of_nonneg (by positivity)]
    rw [Rat.floor_natCast_div_natCast]
    rw [Int.tdiv_eq_ediv_of_nonneg (Int.natCast_nonneg n)]
  cases Int.natAbs_eq a with
  | inl h =>
    rw [h]
    exact hnonneg a.natAbs
  | inr h =>
    rw [h]
    rw [Int.cast_neg, neg_div, truncate_neg, Int.neg_tdiv]
    rw [← hnonneg a.natAbs]
    rfl

namespace Binary64

def value? : Binary64 → Option ℚ
  | .finite negative significand exponent =>
    let magnitude : ℚ := significand * 2 ^ exponent
    some (if negative then -magnitude else magnitude)
  | _ => none

-- Of the two shifts one is by zero, so together they scale by the power of two.
theorem wholePart_eq_floor (significand : Nat) (exponent : Int) :
    (wholePart significand exponent : Int) = ⌊(significand : ℚ) * 2 ^ exponent⌋ := by
  have hexponent : exponent = exponent.toNat - (-exponent).toNat := by omega
  have hpower : (2 : ℚ) ^ exponent = 2 ^ exponent.toNat / 2 ^ (-exponent).toNat := by
    conv_lhs => rw [hexponent]
    rw [zpow_sub₀ two_ne_zero, zpow_natCast, zpow_natCast]
  have hquotient := Rat.floor_natCast_div_natCast (significand * 2 ^ exponent.toNat)
    (2 ^ (-exponent).toNat)
  push_cast at hquotient
  unfold wholePart
  rw [Nat.shiftLeft_eq, Nat.shiftRight_eq_div_pow]
  rw [hpower, ← mul_div_assoc, hquotient]
  push_cast
  rfl

theorem truncate_value {negative : Bool} {significand : Nat} {exponent : Int} {q : ℚ}
    (h : (finite negative significand exponent).value? = some q) :
    truncate q = signed negative (wholePart significand exponent) := by
  have hmagnitude : 0 ≤ (significand : ℚ) * 2 ^ exponent := by positivity
  simp only [value?, Option.some.injEq] at h
  subst h
  cases negative with
  | false =>
    simp only [Bool.false_eq_true, if_false, signed]
    rw [truncate_of_nonneg hmagnitude, wholePart_eq_floor]
  | true =>
    simp only [if_true, signed]
    rw [truncate_neg, truncate_of_nonneg hmagnitude, wholePart_eq_floor]

theorem wholeSeconds_eq_ok_iff {x : Binary64} {n : Amount} :
    x.wholeSeconds = .ok n ↔ ∃ q, x.value? = some q ∧ n.toInt = truncate q := by
  cases x with
  | nan => simp [wholeSeconds, value?]
  | infinite negative => simp [wholeSeconds, value?]
  | finite negative significand exponent =>
    obtain ⟨q, hq⟩ : ∃ q, (finite negative significand exponent).value? = some q := ⟨_, rfl⟩
    have hiff : (finite negative significand exponent).wholeSeconds = .ok n
        ↔ Amount.ofInt? (signed negative (wholePart significand exponent)) = some n := by
      unfold wholeSeconds
      dsimp only
      split
      · next m hm => rw [hm, Except.ok.injEq, Option.some.injEq]
      · next hnone => simp [hnone]
    rw [hiff, Amount.ofInt?_eq_some_iff, ← truncate_value hq]
    rw [hq]
    simp

end Binary64

end TimeMarkup
