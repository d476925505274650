import TimeMarkup.Proofs.Calendar.Week
import TimeMarkup.Proofs.Timestamp.Grammar

/-!
This module contains the conditions under which what is written in a timestamp exists. The main
statement says that every timestamp of the years up to 9999 whose date, time and offset exist stands
for an instant.
-/

namespace TimeMarkup

namespace Date

theorem ofFields?_isSome_iff {year month day : Int} :
    (ofFields? year month day).isSome
      ↔ (1 ≤ month ∧ month ≤ 12) ∧ 1 ≤ day ∧ day ≤ daysInMonth year month := by
  unfold ofFields?
  split
  · next h => simp [h]
  · next h => simp [h]

theorem ofWeek?_isSome_iff {year week day : Int} :
    (ofWeek? year week day).isSome ↔ (1 ≤ week ∧ week ≤ weeksIn year) ∧ 1 ≤ day ∧ day ≤ 7 := by
  unfold ofWeek?
  split
  · next h => simp [h]
  · next h => simp [h]

end Date

namespace Iso

theorem le_weeksIn_iff {year week : Int} :
    week ≤ weeksIn year ↔ thursday year week < monthStart (monthIndex (year + 1) 1) := by
  simp only [weeksIn, thursday, firstMonday, weekday]
  omega

theorem DateFields.date?_isSome_iff (d : DateFields) : d.date?.isSome ↔ d.Exists := by
  cases d with
  | calendar year month day =>
    rw [DateFields.date?, Date.ofFields?_isSome_iff, DateFields.Exists]
    omega
  | week year number day =>
    rw [DateFields.date?, Date.ofWeek?_isSome_iff, le_weeksIn_iff, DateFields.Exists]
    omega

section

variable {t : TimeFields}

theorem TimeFields.nanos_eq (t : TimeFields) :
    t.nanos = 10 ^ (9 - (t.fraction.take 9).length) * decimalValue (t.fraction.take 9) := by
  rw [nanos, ofDigits_eq_decimalValue, decimalValue_append, List.length_replicate]
  rw [decimalValue_replicate_zero, Nat.add_zero]

theorem TimeFields.nanos_lt (h : ∀ c ∈ t.fraction, c.isDigit) : t.nanos < 1000000000 := by
  have hlt := decimalValue_lt (fun c hc => h c (List.mem_of_mem_take hc) : ∀ c ∈ t.fraction.take 9, _)
  have hlength : 9 - (t.fraction.take 9).length + (t.fraction.take 9).length = 9 := by
    rw [List.length_take]
    omega
  calc
    t.nanos = 10 ^ (9 - (t.fraction.take 9).length) * decimalValue (t.fraction.take 9) := t.nanos_eq
    _ < 10 ^ (9 - (t.fraction.take 9).length) * 10 ^ (t.fraction.take 9).length :=
      Nat.mul_lt_mul_of_pos_left hlt (Nat.pow_pos (by omega))
    _ = 1000000000 := by rw [← Nat.pow_add, hlength]

theorem TimeFields.nanos_eq_zero_iff (h : ∀ c ∈ t.fraction, c.isDigit) :
    t.nanos = 0 ↔ ∀ c ∈ t.fraction.take 9, c = '0' := by
  have hpow : 10 ^ (9 - (t.fraction.take 9).length) ≠ 0 := Nat.ne_of_gt (Nat.pow_pos (by omega))
  rw [t.nanos_eq, Nat.mul_eq_zero, or_iff_right hpow]
  exact decimalValue_eq_zero_iff (fun c hc => h c (List.mem_of_mem_take hc))

theorem TimeFields.nanosOfDay?_eq_some_iff (h : ∀ c ∈ t.fraction, c.isDigit) {n : Int} :
    t.nanosOfDay? = some n
      ↔ t.Exists
        ∧ n = (((t.hour * 60 + t.minute) * 60 + t.second) * 1000000000 + t.nanos : Nat) := by
  have hlt := TimeFields.nanos_lt h
  simp only [TimeFields.nanosOfDay?, TimeFields.Exists, ← TimeFields.nanos_eq_zero_iff h,
    Option.ite_none_right_eq_some, Option.some.injEq]
  omega

theorem TimeFields.nanosOfDay?_natAbs_le {n : Int} (h : t.nanosOfDay? = some n) :
    n.natAbs ≤ 86400000000000 := by
  simp only [TimeFields.nanosOfDay?, Option.ite_none_right_eq_some, Option.some.injEq] at h
  omega

end

theorem OffsetFields.nanos?_isSome_iff (o : OffsetFields) : o.nanos?.isSome ↔ o.Exists := by
  unfold OffsetFields.nanos? OffsetFields.Exists
  split
  · next h => simp [h]
  · next h => simp [h]

theorem OffsetFields.nanos?_natAbs_le {o : OffsetFields} {n : Int} (h : o.nanos? = some n) :
    n.natAbs ≤ 86400000000000 := by
  simp only [OffsetFields.nanos?, nanosPerMinute, Option.ite_none_right_eq_some,
    Option.some.injEq] at h
  obtain ⟨hbounds, rfl⟩ := h
  split <;> omega

def DateFields.year : DateFields → Nat
  | .calendar year _ _ => year
  | .week year _ _ => year

theorem DateFields.dayNumber_bounds_of_date? {d : DateFields} {date : Date}
    (h : d.date? = some date) :
    monthStart (monthIndex d.year 1) - 3 ≤ date.dayNumber
      ∧ date.dayNumber ≤ monthStart (monthIndex (d.year + 1) 1) + 3 := by
  cases d with
  | calendar year month day =>
    obtain ⟨hyear, -, -⟩ := Date.ofFields?_eq_some_iff.mp h
    have hfirst := monthStart_year_le_dayNumber date
    have hlast := dayNumber_lt_monthStart_year_add_one date
    rw [hyear] at hfirst hlast
    show monthStart (monthIndex year 1) - 3 ≤ date.dayNumber
      ∧ date.dayNumber ≤ monthStart (monthIndex (year + 1) 1) + 3
    omega
  | week year number day =>
    have hexists : (DateFields.week year number day).Exists := by
      rw [← DateFields.date?_isSome_iff, h]
      rfl
    simp only [DateFields.date?, Date.ofWeek?, Option.ite_none_right_eq_some,
      Option.some.injEq] at h
    obtain ⟨-, rfl⟩ := h
    simp only [DateFields.Exists, thursday, firstMonday, weekday] at hexists
    rw [Date.dayNumber_ofDayNumber]
    simp only [DateFields.year, firstMonday, weekday]
    omega

theorem DateFields.onDate?_isSome {d : DateFields} {date : Date} {time : Int}
    (hyear : d.year ≤ 9999) (h : d.date? = some date) (htime : time.natAbs ≤ 172800000000000) :
    (Instant.onDate? date time).isSome := by
  have hbounds := DateFields.dayNumber_bounds_of_date? h
  have hlow : monthStart 0 ≤ monthStart (monthIndex d.year 1) := by
    apply monthStart_le
    unfold monthIndex
    omega
  have hhigh : monthStart (monthIndex (d.year + 1) 1) ≤ monthStart 120000 := by
    apply monthStart_le
    unfold monthIndex
    omega
  have hfirst : monthStart 0 = -719528 := by decide +kernel
  have hlast : monthStart 120000 = 2932897 := by decide +kernel
  unfold Instant.onDate? Instant.ofNanos? nanosPerDay
  rw [dif_pos (by omega)]
  rfl

theorem Fields.instant?_eq_some_iff {f : Fields} {i : Instant} :
    f.instant? = some i
      ↔ ∃ date time offset, f.date.date? = some date
        ∧ f.time.elim (some 0) TimeFields.nanosOfDay? = some time
        ∧ f.offset.elim (some 0) OffsetFields.nanos? = some offset
        ∧ Instant.onDate? date (time - offset) = some i := by
  obtain ⟨d, time, offset⟩ := f
  cases time <;> cases offset <;> simp [Fields.instant?, Option.bind_eq_some_iff]

theorem elim_isSome_iff {α : Type} {a : Option α} {f : α → Option Int} {P : α → Prop}
    (h : ∀ x ∈ a, (f x).isSome ↔ P x) : (a.elim (some 0) f).isSome ↔ ∀ x ∈ a, P x := by
  cases a with
  | none => simp
  | some x => simpa using h x rfl

theorem elim_natAbs_le {α : Type} {a : Option α} {f : α → Option Int} {bound : Nat}
    (h : ∀ x n, f x = some n → n.natAbs ≤ bound) {n : Int} (hn : a.elim (some 0) f = some n) :
    n.natAbs ≤ bound := by
  cases a with
  | none =>
    cases hn
    simp
  | some x => exact h x n hn

theorem Fields.instant?_isSome_iff {f : Fields} (hyear : f.date.year ≤ 9999)
    (hfraction : ∀ t ∈ f.time, ∀ c ∈ t.fraction, c.isDigit) : f.instant?.isSome ↔ f.Exists := by
  have hdate := DateFields.date?_isSome_iff f.date
  have htime : (f.time.elim (some 0) TimeFields.nanosOfDay?).isSome ↔ ∀ t ∈ f.time, t.Exists := by
    apply elim_isSome_iff
    intro t ht
    simp [Option.isSome_iff_exists, TimeFields.nanosOfDay?_eq_some_iff (hfraction t ht)]
  have hoffset : (f.offset.elim (some 0) OffsetFields.nanos?).isSome ↔ ∀ o ∈ f.offset, o.Exists :=
    elim_isSome_iff (fun o _ => OffsetFields.nanos?_isSome_iff o)
  constructor
  · intro h
    obtain ⟨i, h⟩ := Option.isSome_iff_exists.mp h
    obtain ⟨date, time, offset, h₁, h₂, h₃, -⟩ := Fields.instant?_eq_some_iff.mp h
    exact ⟨hdate.mp (by simp [h₁]), htime.mp (by simp [h₂]), hoffset.mp (by simp [h₃])⟩
  · intro h
    obtain ⟨date, h₁⟩ := Option.isSome_iff_exists.mp (hdate.mpr h.date)
    obtain ⟨time, h₂⟩ := Option.isSome_iff_exists.mp (htime.mpr h.time)
    obtain ⟨offset, h₃⟩ := Option.isSome_iff_exists.mp (hoffset.mpr h.offset)
    have hsmall : (time - offset).natAbs ≤ 172800000000000 := by
      have htime := elim_natAbs_le (fun _ _ h => TimeFields.nanosOfDay?_natAbs_le h) h₂
      have hoffset := elim_natAbs_le (fun _ _ h => OffsetFields.nanos?_natAbs_le h) h₃
      omega
    obtain ⟨i, h₄⟩ := Option.isSome_iff_exists.mp (DateFields.onDate?_isSome hyear h₁ hsmall)
    rw [Option.isSome_iff_exists]
    exact ⟨i, Fields.instant?_eq_some_iff.mpr ⟨date, time, offset, h₁, h₂, h₃, h₄⟩⟩

end Iso

end TimeMarkup
