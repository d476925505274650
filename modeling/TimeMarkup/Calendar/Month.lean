/-!
This module contains the months of the proleptic Gregorian calendar, their lengths, and the number
of days from 1970-01-01 to the first of a month. The main statements say that every day lies in
exactly one month.
-/

namespace TimeMarkup

def isLeap (year : Int) : Bool :=
  year % 4 = 0 && (year % 100 ≠ 0 || year % 400 = 0)

def daysInMonth (year month : Int) : Int :=
  if month = 2 then
    if isLeap year then 29 else 28
  else if month = 4 ∨ month = 6 ∨ month = 9 ∨ month = 11 then 30
  else 31

theorem le_daysInMonth (year month : Int) : 28 ≤ daysInMonth year month := by
  unfold daysInMonth
  repeat' split
  all_goals omega

theorem daysInMonth_le (year month : Int) : daysInMonth year month ≤ 31 := by
  unfold daysInMonth
  repeat' split
  all_goals omega

/-- The day number of March 1, the first day of a year whose leap day comes last. -/
def marchStart (year : Int) : Int :=
  365 * year + year / 4 - year / 100 + year / 400 - 719468

/--
The year, counted from March, that holds day `n`. Cycles of 146097 days are split into centuries of
36524 days, groups of four years with 1461 days, and years of 365 days. Of each split the last part
takes the day that is left over.
-/
def marchYear (n : Int) : Int :=
  let n := n + 719468
  let ofCycle := n % 146097
  let century := min 3 (ofCycle / 36524)
  let ofCentury := ofCycle - 36524 * century
  let single := min 3 (ofCentury % 1461 / 365)
  400 * (n / 146097) + 100 * century + 4 * (ofCentury / 1461) + single

theorem marchStart_add_one (year : Int) :
    marchStart (year + 1) = marchStart year + (if isLeap (year + 1) then 366 else 365) := by
  unfold marchStart isLeap
  have h₁ : (year + 1) / 4 = year / 4 + (if (year + 1) % 4 = 0 then 1 else 0) := by
    split <;> omega
  have h₂ : (year + 1) / 100 = year / 100 + (if (year + 1) % 100 = 0 then 1 else 0) := by
    split <;> omega
  have h₃ : (year + 1) / 400 = year / 400 + (if (year + 1) % 400 = 0 then 1 else 0) := by
    split <;> omega
  rw [h₁, h₂, h₃]
  simp
  repeat' split
  all_goals omega

theorem marchStart_cycles {q c g s : Int} (hc : 0 ≤ c ∧ c ≤ 3) (hg : 0 ≤ g ∧ g ≤ 24)
    (hs : 0 ≤ s ∧ s ≤ 3) :
    marchStart (400 * q + 100 * c + 4 * g + s)
      = 146097 * q + 36524 * c + 1461 * g + 365 * s - 719468 := by
  unfold marchStart
  have h₁ : (400 * q + 100 * c + 4 * g + s) / 4 = 100 * q + 25 * c + g := by omega
  have h₂ : (400 * q + 100 * c + 4 * g + s) / 100 = 4 * q + c := by omega
  have h₃ : (400 * q + 100 * c + 4 * g + s) / 400 = q := by omega
  omega

theorem isLeap_cycles {q c g s : Int} (hc : 0 ≤ c ∧ c ≤ 3) (hg : 0 ≤ g ∧ g ≤ 24)
    (hs : 0 ≤ s ∧ s ≤ 3) :
    isLeap (400 * q + 100 * c + 4 * g + s + 1) = true ↔ s = 3 ∧ (g < 24 ∨ c = 3) := by
  simp [isLeap]
  omega

theorem marchStart_marchYear_le (n : Int) : marchStart (marchYear n) ≤ n := by
  unfold marchYear
  extract_lets n' ofCycle century ofCentury single
  have hc : 0 ≤ century ∧ century ≤ 3 := by omega
  have hr : 0 ≤ ofCentury ∧ ofCentury ≤ 36524 := by omega
  have hg : 0 ≤ ofCentury / 1461 ∧ ofCentury / 1461 ≤ 24 := by omega
  have hs : 0 ≤ single ∧ single ≤ 3 := by omega
  rw [marchStart_cycles hc hg hs]
  omega

theorem lt_marchStart_marchYear_add_one (n : Int) : n < marchStart (marchYear n + 1) := by
  rw [marchStart_add_one]
  unfold marchYear
  extract_lets n' ofCycle century ofCentury single
  have hc : 0 ≤ century ∧ century ≤ 3 := by omega
  have hr : 0 ≤ ofCentury ∧ ofCentury ≤ 36524 := by omega
  have hr' : ofCentury = 36524 → century = 3 := by omega
  have hg : 0 ≤ ofCentury / 1461 ∧ ofCentury / 1461 ≤ 24 := by omega
  have hs : 0 ≤ single ∧ single ≤ 3 := by omega
  rw [marchStart_cycles hc hg hs]
  split
  · next h =>
    rw [isLeap_cycles hc hg hs] at h
    omega
  · next h =>
    rw [isLeap_cycles hc hg hs] at h
    by_cases hlast : single = 3
    · omega
    · have : ofCentury % 1461 < 365 * single + 365 := by omega
      omega

/-- Months are counted from January of the year 0. -/
def monthIndex (year month : Int) : Int :=
  12 * year + (month - 1)

def monthStart (index : Int) : Int :=
  let marchIndex := index - 2
  marchStart (marchIndex / 12) + (153 * (marchIndex % 12) + 2) / 5

def monthOf (n : Int) : Int :=
  let year := marchYear n
  12 * year + (5 * (n - marchStart year) + 2) / 153 + 2

def monthLength (index : Int) : Int :=
  daysInMonth (index / 12) (index % 12 + 1)

theorem monthStart_march {year month : Int} (h : 0 ≤ month ∧ month ≤ 11) :
    monthStart (12 * year + month + 2) = marchStart year + (153 * month + 2) / 5 := by
  have h₁ : (12 * year + month + 2 - 2) / 12 = year := by omega
  have h₂ : (12 * year + month + 2 - 2) % 12 = month := by omega
  simp only [monthStart, h₁, h₂]

theorem monthStart_march_add_one {year month : Int} (h : 0 ≤ month ∧ month ≤ 11) :
    monthStart (12 * year + month + 2 + 1)
      = if month = 11 then marchStart (year + 1)
        else marchStart year + (153 * month + 155) / 5 := by
  split
  · rw [show 12 * year + month + 2 + 1 = 12 * (year + 1) + 0 + 2 by omega,
      monthStart_march (by omega)]
    omega
  · rw [show 12 * year + month + 2 + 1 = 12 * year + (month + 1) + 2 by omega,
      monthStart_march (by omega)]
    omega

theorem monthStart_add_one (index : Int) :
    monthStart (index + 1) = monthStart index + monthLength index := by
  generalize hm : (index - 2) % 12 = month
  generalize hy : (index - 2) / 12 = year
  obtain rfl : index = 12 * year + month + 2 := by omega
  rw [monthStart_march_add_one (by omega), monthStart_march (by omega)]
  unfold monthLength daysInMonth
  split
  · have h₁ : (12 * year + month + 2) / 12 = year + 1 := by omega
    have h₂ : (12 * year + month + 2) % 12 + 1 = 2 := by omega
    rw [marchStart_add_one, h₁, h₂]
    cases isLeap (year + 1) <;> simp <;> omega
  · have h₂ : (12 * year + month + 2) % 12 + 1 ≠ 2 := by omega
    have h₃ : month = 0 ∨ month = 1 ∨ month = 2 ∨ month = 3 ∨ month = 4 ∨ month = 5 ∨ month = 6
        ∨ month = 7 ∨ month = 8 ∨ month = 9 ∨ month = 10 := by omega
    simp only [h₂, if_false]
    rcases h₃ with rfl | rfl | rfl | rfl | rfl | rfl | rfl | rfl | rfl | rfl | rfl
    all_goals
      split <;> omega

theorem monthStart_monthOf_le (n : Int) : monthStart (monthOf n) ≤ n := by
  have h₁ := marchStart_marchYear_le n
  have h₂ := lt_marchStart_marchYear_add_one n
  have h₃ := marchStart_add_one (marchYear n)
  have h₄ : n - marchStart (marchYear n) ≤ 365 := by
    split at h₃ <;> omega
  unfold monthOf
  rw [monthStart_march (by omega)]
  omega

theorem lt_monthStart_monthOf_add_one (n : Int) : n < monthStart (monthOf n + 1) := by
  have h₁ := marchStart_marchYear_le n
  have h₂ := lt_marchStart_marchYear_add_one n
  have h₃ := marchStart_add_one (marchYear n)
  have h₄ : n - marchStart (marchYear n) ≤ 365 := by
    split at h₃ <;> omega
  unfold monthOf
  rw [monthStart_march_add_one (by omega)]
  split <;> omega

theorem monthStart_add_le (index : Int) (n : Nat) :
    monthStart index + 28 * n ≤ monthStart (index + n) := by
  induction n with
  | zero => simp
  | succ n ih =>
    have h₁ := monthStart_add_one (index + n)
    have h₂ := le_daysInMonth ((index + n) / 12) ((index + n) % 12 + 1)
    unfold monthLength at h₁
    rw [show index + ((n + 1 : Nat) : Int) = index + n + 1 by omega]
    omega

theorem monthStart_le {i j : Int} (h : i ≤ j) : monthStart i ≤ monthStart j := by
  have := monthStart_add_le i (j - i).toNat
  rw [show i + ((j - i).toNat : Int) = j by omega] at this
  omega

theorem monthOf_eq {n index : Int} (h₁ : monthStart index ≤ n) (h₂ : n < monthStart (index + 1)) :
    monthOf n = index := by
  have h₃ := monthStart_monthOf_le n
  have h₄ := lt_monthStart_monthOf_add_one n
  by_cases h : monthOf n ≤ index
  · have h₅ := monthStart_add_le (monthOf n + 1) (index - (monthOf n + 1)).toNat
    by_cases heq : monthOf n = index
    · exact heq
    · rw [show monthOf n + 1 + ((index - (monthOf n + 1)).toNat : Int) = index by omega] at h₅
      omega
  · have h₅ := monthStart_add_le (index + 1) (monthOf n - (index + 1)).toNat
    rw [show index + 1 + ((monthOf n - (index + 1)).toNat : Int) = monthOf n by omega] at h₅
    omega

attribute [irreducible] monthStart monthOf

end TimeMarkup
