import Mathlib.Algebra.Group.Nat.Defs
import TimeMarkup.Binary64.Basic

/-!
This module contains the bounds of rounding. The main statement says that a fraction in billionths
is at most a whole, which it becomes when it is close enough to one.
-/

namespace TimeMarkup

namespace Binary64

theorem fractionPart_lt (significand : Nat) (exponent : Int) :
    fractionPart significand exponent < 2 ^ (-exponent).toNat := by
  unfold fractionPart
  rw [Nat.one_shiftLeft]
  exact Nat.mod_lt _ (Nat.two_pow_pos _)

theorem nearest_le_of_dvd {n m : Nat} (hunit : 2 ^ (n.log2 - 52) ∣ m) (h : n < m) :
    nearest n ≤ m := by
  obtain ⟨k, rfl⟩ := hunit
  have hquotient : n / 2 ^ (n.log2 - 52) + 1 ≤ k := by
    rw [Nat.add_one_le_iff]
    exact Nat.div_lt_of_lt_mul h
  have hnext : (n / 2 ^ (n.log2 - 52) + 1) * 2 ^ (n.log2 - 52) ≤ 2 ^ (n.log2 - 52) * k := by
    rw [Nat.mul_comm]
    exact Nat.mul_le_mul_left _ hquotient
  have hbelow : n / 2 ^ (n.log2 - 52) * 2 ^ (n.log2 - 52) ≤ n := Nat.div_mul_le_self _ _
  simp only [nearest, Nat.one_shiftLeft]
  split
  · exact hnext
  · omega

theorem nearest_le {n m shift : Nat} (hm : m < 2 ^ 53) (h : n < m * 2 ^ shift) :
    nearest n ≤ m * 2 ^ shift := by
  apply nearest_le_of_dvd _ h
  have hshift : n.log2 - 52 ≤ shift := by
    by_cases hn : n = 0
    · simp [hn]
    · have hlog : 2 ^ n.log2 ≤ n := Nat.log2_self_le hn
      have hlt : 2 ^ n.log2 < 2 ^ (53 + shift) := by
        calc
          2 ^ n.log2 ≤ n := hlog
          _ < m * 2 ^ shift := h
          _ ≤ 2 ^ 53 * 2 ^ shift := Nat.mul_le_mul_right _ (Nat.le_of_lt hm)
          _ = 2 ^ (53 + shift) := (Nat.pow_add 2 53 shift).symm
      have := (Nat.pow_lt_pow_iff_right (by omega)).mp hlt
      omega
  exact Nat.dvd_mul_left_of_dvd (Nat.pow_dvd_pow 2 hshift) m

theorem roundHalfUp_le {n d m : Nat} (hd : 0 < d) (h : n ≤ m * d) : roundHalfUp n d ≤ m := by
  have hmul : 2 * d * (m + 1) = 2 * (m * d) + 2 * d := by
    rw [Nat.mul_add, Nat.mul_assoc, Nat.mul_comm d m, Nat.mul_one]
  have hlt : 2 * n + d < 2 * d * (m + 1) := by omega
  exact Nat.le_of_lt_succ (Nat.div_lt_of_lt_mul hlt)

theorem billionths_le (significand : Nat) (exponent : Int) :
    billionths significand exponent ≤ 1000000000 := by
  have hfraction := fractionPart_lt significand exponent
  unfold billionths
  rw [Nat.one_shiftLeft]
  apply roundHalfUp_le (Nat.two_pow_pos _)
  apply nearest_le (by omega)
  rw [Nat.mul_comm]
  exact Nat.mul_lt_mul_of_pos_left hfraction (by omega)

end Binary64

end TimeMarkup
