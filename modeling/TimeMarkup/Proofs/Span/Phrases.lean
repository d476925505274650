import TimeMarkup.Proofs.Span.Part
import TimeMarkup.Span.Describe

/-!
This module contains the description of a span by rule: which units are listed, how each of them is
put in words, and how the words are joined. The main statement says that the walk over the units
gives this description for every span, every precision and every number of units.
-/

namespace TimeMarkup

namespace TimeUnit

def part : TimeUnit → Span.Part
  | years => .years
  | months => .months
  | days => .days
  | hours => .hours
  | minutes => .minutes
  | seconds => .seconds

def rank (u : TimeUnit) : Nat :=
  u.part.rank

/-- The units of `us` down to the one named by `precision`, or all of them if it names none. -/
def downTo (precision : String) (us : List TimeUnit) : List TimeUnit :=
  match us.find? fun u => u.name = precision with
  | some last => us.filter fun u => u.rank ≤ last.rank
  | none => us

def singularName : TimeUnit → String
  | years => "year"
  | months => "month"
  | days => "day"
  | hours => "hour"
  | minutes => "minute"
  | seconds => "second"

theorem all_pairwise_rank : all.Pairwise fun u v => u.rank < v.rank := by
  decide

theorem mem_all (u : TimeUnit) : u ∈ all := by
  cases u <;> decide

theorem rank_le_rank_seconds (u : TimeUnit) : u.rank ≤ seconds.rank := by
  cases u <;> decide

theorem name_inj {u v : TimeUnit} (h : u.name = v.name) : u = v := by
  cases u <;> cases v <;> first | rfl | exact absurd h (by decide)

theorem singular_name (u : TimeUnit) : singular u.name = u.singularName := by
  cases u <;> rfl

variable {precision : String} {u : TimeUnit} {us : List TimeUnit}

theorem filter_rank_le_eq_nil (hu : ∀ v ∈ us, u.rank < v.rank) :
    us.filter (fun v => v.rank ≤ u.rank) = [] := by
  rw [List.filter_eq_nil_iff]
  intro v hv
  have := hu v hv
  simp only [decide_eq_true_eq]
  omega

theorem downTo_cons_of_eq (hu : ∀ v ∈ us, u.rank < v.rank) (h : u.name = precision) :
    downTo precision (u :: us) = [u] := by
  unfold downTo
  simp [h, filter_rank_le_eq_nil hu]

theorem downTo_cons_of_ne (hu : ∀ v ∈ us, u.rank < v.rank) (h : u.name ≠ precision) :
    downTo precision (u :: us) = u :: downTo precision us := by
  unfold downTo
  rw [List.find?_cons_of_neg (by simpa using h)]
  cases hlast : us.find? fun v => v.name = precision with
  | none => rfl
  | some last =>
    have hle : u.rank ≤ last.rank := Nat.le_of_lt (hu last (List.mem_of_find?_eq_some hlast))
    simp [hle]

theorem rank_le_of_mem_downTo {last : TimeUnit} (hu : u ∈ downTo precision all)
    (hlast : last.name = precision) : u.rank ≤ last.rank := by
  unfold downTo at hu
  cases hfind : all.find? fun v => v.name = precision with
  | none =>
    rw [List.find?_eq_none] at hfind
    simpa [hlast] using hfind last (mem_all last)
  | some v =>
    have hname : v.name = precision := by simpa using List.find?_some hfind
    have heq : v = last := name_inj (hname.trans hlast.symm)
    rw [hfind, heq] at hu
    simpa using (List.mem_filter.mp hu).2

end TimeUnit

/-- Phrases with commas between them, and an "and" instead of the last comma. -/
def joined (ps : List String) : String :=
  match ps.getLast? with
  | none => ""
  | some last =>
    if ps.dropLast = [] then last else ", ".intercalate ps.dropLast ++ " and " ++ last

theorem joined_cons (p q r : String) (ps : List String) :
    joined (p :: q :: r :: ps) = p ++ ", " ++ joined (q :: r :: ps) := by
  unfold joined
  rw [List.getLast?_cons_cons]
  rw [List.dropLast_cons_cons]
  cases hlast : (q :: r :: ps).getLast? with
  | none => simp at hlast
  | some last =>
    simp [String.append_assoc]

theorem enumerate_eq_joined (ps : List String) : enumerate ps = joined ps := by
  induction ps with
  | nil => rfl
  | cons p ps ih =>
    match ps with
    | [] => rfl
    | [q] => simp [enumerate, joined]
    | q :: r :: ps =>
      rw [enumerate]
      · rw [ih]
        rw [joined_cons]
      · simp
      · simp

namespace Span

variable {s : Span} {precision : String}

/-- The first `maxUnits` units of `s` down to `precision` that are not zero. -/
def listed (s : Span) (precision : String) (maxUnits : Nat) : List TimeUnit :=
  ((TimeUnit.downTo precision TimeUnit.all).filter fun u => s.amount u ≠ 0).take maxUnits

def inWords (s : Span) (u : TimeUnit) : String :=
  if s.amount u = 1 then "1 " ++ u.singularName else decimal (s.amount u).toInt ++ " " ++ u.name

def unitsInWords (s : Span) (precision : String) (us : List TimeUnit) : String :=
  match us with
  | [] =>
    if precision = "seconds" then "0 seconds"
    else "less than a " ++ String.ofList precision.toList.dropLast
  | us => joined (us.map s.inWords)

def rendering (s : Span) (precision : String) (maxUnits : Nat) : String :=
  s.unitsInWords precision (s.listed precision maxUnits)

theorem shown_eq_take {room : Nat} {us : List TimeUnit} (hroom : 0 < room)
    (hus : us.Pairwise fun u v => u.rank < v.rank) :
    s.shown precision room us
      = ((TimeUnit.downTo precision us).filter fun u => s.amount u ≠ 0).take room := by
  induction us generalizing room with
  | nil => simp [shown, TimeUnit.downTo]
  | cons u us ih =>
    rw [List.pairwise_cons] at hus
    obtain ⟨room, rfl⟩ : ∃ n, room = n + 1 := ⟨room - 1, by omega⟩
    rw [shown]
    by_cases hname : u.name = precision
    · rw [TimeUnit.downTo_cons_of_eq hus.1 hname]
      by_cases hzero : s.amount u = 0 <;> simp [hname, hzero]
    · rw [TimeUnit.downTo_cons_of_ne hus.1 hname]
      by_cases hzero : s.amount u = 0
      · rw [ih hroom hus.2]
        simp [hname, hzero]
      · by_cases hfull : room = 0
        · simp [hname, hzero, hfull]
        · rw [Nat.add_sub_cancel]
          have hrest := @ih room (by omega) hus.2
          simpa [hname, hzero, hfull] using hrest

theorem phrase_amount (s : Span) (u : TimeUnit) : phrase (s.amount u).toInt u.name = s.inWords u := by
  have hone : s.amount u = 1 ↔ (s.amount u).toInt = 1 := Int64.toInt_inj.symm
  unfold phrase inWords
  rw [TimeUnit.singular_name]
  simp only [hone]

theorem describe_eq_rendering {maxUnits : Int} (h : 0 < maxUnits) :
    s.describe precision maxUnits = .ok (s.rendering precision maxUnits.toNat) := by
  unfold describe rendering unitsInWords listed
  rw [if_neg (by omega)]
  rw [shown_eq_take (by omega) TimeUnit.all_pairwise_rank]
  generalize ((TimeUnit.downTo precision TimeUnit.all).filter _).take _ = us
  cases us with
  | nil => rfl
  | cons u us =>
    simp only [enumerate_eq_joined, phrase_amount]

theorem describe_eq_error_iff {maxUnits : Int} {e : Error} :
    s.describe precision maxUnits = .error e ↔ maxUnits ≤ 0 ∧ e = .maxUnitsNotPositive := by
  by_cases h : maxUnits ≤ 0
  · unfold describe
    rw [if_pos h]
    simp [h, eq_comm]
  · rw [describe_eq_rendering (by omega)]
    simp [h]

theorem rank_le_of_mem_listed {maxUnits : Nat} {u last : TimeUnit}
    (hu : u ∈ s.listed precision maxUnits) (hlast : last.name = precision) : u.rank ≤ last.rank := by
  have hdown : u ∈ TimeUnit.downTo precision TimeUnit.all :=
    (List.mem_filter.mp (List.mem_of_mem_take hu)).1
  exact TimeUnit.rank_le_of_mem_downTo hdown hlast

end Span

end TimeMarkup
