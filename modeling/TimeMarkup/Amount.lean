/-!
This module contains amounts of a time unit: signed 64-bit integers whose sums stop at the ends of
the range instead of wrapping around. The main statements say what each operation does to the
integer an amount stands for.
-/

namespace TimeMarkup

abbrev Amount := Int64

namespace Amount

def clamp (n : Int) : Amount :=
  Int64.ofIntClamp n

def ofInt? (n : Int) : Option Amount :=
  if -9223372036854775808 ≤ n ∧ n < 9223372036854775808 then some (Int64.ofInt n) else none

def addClamped (a b : Amount) : Amount :=
  clamp (a.toInt + b.toInt)

def negClamped (a : Amount) : Amount :=
  clamp (-a.toInt)

def absClamped (a : Amount) : Amount :=
  clamp a.toInt.natAbs

def scaleClamped (factor : Int) (a : Amount) : Amount :=
  clamp (factor * a.toInt)

def add? (a b : Amount) : Option Amount :=
  ofInt? (a.toInt + b.toInt)

def scale? (factor : Int) (a : Amount) : Option Amount :=
  ofInt? (factor * a.toInt)

theorem clamp_toInt (n : Int) :
    (clamp n).toInt = max (-9223372036854775808) (min n 9223372036854775807) := by
  have hmin := Int64.toInt_minValue
  have hmax := Int64.toInt_maxValue
  unfold clamp Int64.ofIntClamp
  split
  · split
    · rw [Int64.toInt_ofIntLE]
      omega
    · omega
  · omega

theorem clamp_toInt_of_le {n : Int} (h₁ : -9223372036854775808 ≤ n)
    (h₂ : n < 9223372036854775808) : (clamp n).toInt = n := by
  rw [clamp_toInt]
  omega

theorem le_toInt (a : Amount) : -9223372036854775808 ≤ a.toInt :=
  Int64.le_toInt a

theorem toInt_lt (a : Amount) : a.toInt < 9223372036854775808 :=
  Int64.toInt_lt a

theorem ofInt?_eq_some_iff {n : Int} {a : Amount} : ofInt? n = some a ↔ a.toInt = n := by
  unfold ofInt?
  constructor
  · intro h
    split at h
    · next hn =>
      simp at h
      subst h
      rw [Int64.toInt_ofInt_of_le] <;> omega
    · simp at h
  · intro h
    subst h
    rw [if_pos ⟨le_toInt a, toInt_lt a⟩]
    simp

theorem add?_eq_some_iff {a b c : Amount} : a.add? b = some c ↔ c.toInt = a.toInt + b.toInt :=
  ofInt?_eq_some_iff

theorem scale?_eq_some_iff {factor : Int} {a c : Amount} :
    a.scale? factor = some c ↔ c.toInt = factor * a.toInt :=
  ofInt?_eq_some_iff

theorem addClamped_toInt (a b : Amount) :
    (addClamped a b).toInt
      = max (-9223372036854775808) (min (a.toInt + b.toInt) 9223372036854775807) :=
  clamp_toInt _

theorem negClamped_toInt (a : Amount) :
    (negClamped a).toInt = min (-a.toInt) 9223372036854775807 := by
  have := toInt_lt a
  rw [negClamped, clamp_toInt]
  omega

theorem absClamped_toInt (a : Amount) :
    (absClamped a).toInt = min (a.toInt.natAbs : Int) 9223372036854775807 := by
  rw [absClamped, clamp_toInt]
  omega

theorem scaleClamped_toInt (factor : Int) (a : Amount) :
    (scaleClamped factor a).toInt
      = max (-9223372036854775808) (min (factor * a.toInt) 9223372036854775807) :=
  clamp_toInt _

theorem toInt_div_of_lt {a b : Amount} (h : 1 < b.toInt) :
    (a / b).toInt = a.toInt.tdiv b.toInt := by
  have hlo := le_toInt a
  have hhi := toInt_lt a
  have habs : (a.toInt.tdiv b.toInt).natAbs = a.toInt.natAbs / b.toInt.natAbs :=
    Int.natAbs_tdiv a.toInt b.toInt
  have hhalf : a.toInt.natAbs / b.toInt.natAbs ≤ a.toInt.natAbs / 2 :=
    Nat.div_le_div_left (by omega) (by omega)
  rw [Int64.toInt_div, Int.bmod_eq_of_le]
  all_goals omega

end Amount

end TimeMarkup
