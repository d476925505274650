import TimeMarkup.Proofs.Span.Phrases

/-!
This module contains the part of a span that its description shows. The main statements say that
this part has the amounts of the span down to the unit at which the description ends, and that the
description is all of this part in words.
-/

namespace TimeMarkup

namespace TimeUnit

/-- The unit named by `precision`, or the shortest one if it names none. -/
def finest (precision : String) : TimeUnit :=
  (all.find? fun u => u.name = precision).getD .seconds

theorem downTo_all (precision : String) :
    downTo precision all = all.filter fun u => u.rank ≤ (finest precision).rank := by
  unfold downTo finest
  cases all.find? fun u => u.name = precision with
  | some last => rfl
  | none =>
    symm
    rw [List.filter_eq_self]
    intro u _
    simpa using u.rank_le_rank_seconds

theorem take_eq_filter {us : List TimeUnit} (hus : us.Pairwise fun u v => u.rank < v.rank) {n : Nat}
    {u : TimeUnit} (hu : us[n]? = some u) :
    us.take (n + 1) = us.filter fun v => v.rank ≤ u.rank := by
  induction us generalizing n with
  | nil => simp at hu
  | cons v us ih =>
    rw [List.pairwise_cons] at hus
    cases n with
    | zero =>
      obtain rfl : v = u := by simpa using hu
      simp [filter_rank_le_eq_nil hus.1]
    | succ n =>
      rw [List.getElem?_cons_succ] at hu
      have hle : v.rank ≤ u.rank := Nat.le_of_lt (hus.1 u (List.mem_of_getElem? hu))
      rw [List.take_succ_cons]
      rw [ih hus.2 hu]
      simp [hle]

end TimeUnit

namespace Span

variable {s : Span} {precision : String} {maxUnits : Nat}

/--
The unit at which the description of `s` ends: the one of the last phrase that there is room for, or
else the one named by `precision`, or else the seconds.
-/
def lastUnit (s : Span) (precision : String) (maxUnits : Nat) : TimeUnit :=
  (s.listed precision maxUnits)[maxUnits - 1]?.getD (TimeUnit.finest precision)

def only (us : List TimeUnit) (s : Span) : Span where
  years := if .years ∈ us then s.years else 0
  months := if .months ∈ us then s.months else 0
  days := if .days ∈ us then s.days else 0
  hours := if .hours ∈ us then s.hours else 0
  minutes := if .minutes ∈ us then s.minutes else 0
  seconds := if .seconds ∈ us then s.seconds else 0
  nanoseconds := 0

def shownPart (s : Span) (precision : String) (maxUnits : Nat) : Span :=
  s.only (s.listed precision maxUnits)

def wording (s : Span) (precision : String) : String :=
  s.unitsInWords precision (TimeUnit.all.filter fun u => s.amount u ≠ 0)

-- With room to spare the precision ends the list, and without any the last unit taken does.
theorem listed_eq_filter (h : 0 < maxUnits) :
    s.listed precision maxUnits
      = TimeUnit.all.filter fun u =>
          s.amount u ≠ 0 ∧ u.rank ≤ (s.lastUnit precision maxUnits).rank := by
  obtain ⟨n, rfl⟩ : ∃ n, maxUnits = n + 1 := ⟨maxUnits - 1, by omega⟩
  unfold lastUnit listed
  rw [TimeUnit.downTo_all]
  rw [List.filter_filter]
  generalize hus : TimeUnit.all.filter _ = us
  have hsorted : us.Pairwise fun u v => u.rank < v.rank := by
    rw [← hus]
    exact TimeUnit.all_pairwise_rank.filter _
  rw [Nat.add_sub_cancel]
  rw [List.getElem?_take_of_lt (Nat.lt_succ_self n)]
  cases hlast : us[n]? with
  | none =>
    rw [List.getElem?_eq_none_iff] at hlast
    rw [List.take_of_length_le (by omega)]
    rw [← hus]
    simp
  | some u =>
    have hmem := List.mem_of_getElem? hlast
    rw [← hus, List.mem_filter, Bool.and_eq_true] at hmem
    have hfinest : u.rank ≤ (TimeUnit.finest precision).rank := by
      simpa using hmem.2.2
    rw [TimeUnit.take_eq_filter hsorted hlast]
    rw [← hus]
    rw [List.filter_filter]
    apply List.filter_congr
    intro v _
    by_cases hv : v.rank ≤ u.rank
    · have hle := Nat.le_trans hv hfinest
      simp [hv, hle]
    · simp [hv]

theorem amount_only (us : List TimeUnit) (s : Span) (u : TimeUnit) :
    (s.only us).amount u = if u ∈ us then s.amount u else 0 := by
  cases u <;> rfl

theorem amount_shownPart (h : 0 < maxUnits) (u : TimeUnit) :
    (s.shownPart precision maxUnits).amount u
      = if u.rank ≤ (s.lastUnit precision maxUnits).rank then s.amount u else 0 := by
  unfold shownPart
  rw [amount_only]
  rw [listed_eq_filter h]
  simp only [List.mem_filter, TimeUnit.mem_all, true_and, decide_eq_true_eq]
  by_cases hzero : s.amount u = 0
  · simp [hzero]
  · simp [hzero]

theorem rendering_eq_wording_shownPart (h : 0 < maxUnits) :
    s.rendering precision maxUnits = (s.shownPart precision maxUnits).wording precision := by
  have hlisted : s.listed precision maxUnits
      = TimeUnit.all.filter fun u => (s.shownPart precision maxUnits).amount u ≠ 0 := by
    rw [listed_eq_filter h]
    apply List.filter_congr
    intro u _
    rw [amount_shownPart h]
    by_cases hrank : u.rank ≤ (s.lastUnit precision maxUnits).rank
    · simp [hrank]
    · simp [hrank]
  have hwords : ∀ u ∈ s.listed precision maxUnits,
      s.inWords u = (s.shownPart precision maxUnits).inWords u := by
    intro u hu
    unfold inWords shownPart
    rw [amount_only]
    rw [if_pos hu]
  unfold rendering wording
  rw [← hlisted]
  generalize s.listed precision maxUnits = us at hwords ⊢
  cases us with
  | nil => rfl
  | cons u us => exact congrArg joined (List.map_congr_left hwords)

end Span

end TimeMarkup
