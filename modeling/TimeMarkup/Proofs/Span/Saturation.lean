import TimeMarkup.Proofs.Span.Canonical
import TimeMarkup.Proofs.Span.Reading

/-!
This module contains how the span that is read from a text compares with the amounts written there.
The main statement says that it counts as much as they do unless a carry leaves the range of
amounts. The sum then stops at the largest amount, and the span is shorter than the text says.
-/

namespace TimeMarkup

theorem Amount.addClamped_div_of_nonneg {a b n : Amount} (hn : 1 < n.toInt) (ha : 0 ≤ a.toInt)
    (hb : 0 ≤ b.toInt) :
    (a.addClamped (b / n)).toInt = min (a.toInt + b.toInt / n.toInt) 9223372036854775807 := by
  have hquotient : 0 ≤ b.toInt / n.toInt := Int.ediv_nonneg hb (by omega)
  rw [addClamped_div_toInt a b hn]
  rw [Int.tdiv_eq_ediv_of_nonneg hb]
  omega

namespace Span

section

variable {s : Span}

theorem totalMonths_carry_iff (h : s.Along 1) :
    s.carry.totalMonths ≤ s.totalMonths
      ∧ (s.carry.totalMonths = s.totalMonths
        ↔ s.years.toInt + s.months.toInt / 12 ≤ 9223372036854775807) := by
  have hpos : 0 ≤ s.years.toInt ∧ 0 ≤ s.months.toInt := by
    have := h.years
    have := h.months
    omega
  have hyears : s.carry.years.toInt
      = min (s.years.toInt + s.months.toInt / 12) 9223372036854775807 :=
    Amount.addClamped_div_of_nonneg (by decide) hpos.1 hpos.2
  have hmonths : s.carry.months.toInt = s.months.toInt % 12 := by
    rw [carry_months_toInt]
    exact Int.tmod_eq_emod_of_nonneg hpos.2
  unfold totalMonths
  omega

theorem totalSeconds_carry_iff (h : s.Along 1) (hnanos : s.nanoseconds.toInt = 0) :
    let minutes := s.minutes.toInt + s.seconds.toInt / 60
    let hours := s.hours.toInt + minutes / 60
    let days := s.days.toInt + hours / 24
    s.carry.totalSeconds ≤ s.totalSeconds
      ∧ (s.carry.totalSeconds = s.totalSeconds
        ↔ minutes ≤ 9223372036854775807 ∧ hours ≤ 9223372036854775807
          ∧ days ≤ 9223372036854775807) := by
  intro minutes hours days
  have ⟨_, _, hdays, hhours, hminutes, hseconds, _⟩ := h
  rw [Int.one_mul] at hdays hhours hminutes hseconds
  have hlt := s.seconds.toInt_lt
  have hsec : s.carriedSeconds.toInt = s.seconds.toInt := by
    rw [carriedSeconds_toInt, hnanos, Int.zero_tdiv]
    omega
  have hsecpos : 0 ≤ s.carriedSeconds.toInt := by omega
  have hmin : s.carriedMinutes.toInt
      = min (s.minutes.toInt + s.carriedSeconds.toInt / 60) 9223372036854775807 :=
    Amount.addClamped_div_of_nonneg (by decide) hminutes hsecpos
  have hminpos : 0 ≤ s.carriedMinutes.toInt := by omega
  have hhour : s.carriedHours.toInt
      = min (s.hours.toInt + s.carriedMinutes.toInt / 60) 9223372036854775807 :=
    Amount.addClamped_div_of_nonneg (by decide) hhours hminpos
  have hhourpos : 0 ≤ s.carriedHours.toInt := by omega
  have hday : s.carry.days.toInt
      = min (s.days.toInt + s.carriedHours.toInt / 24) 9223372036854775807 :=
    Amount.addClamped_div_of_nonneg (by decide) hdays hhourpos
  unfold totalSeconds totalMinutes totalHours
  rw [hday]
  rw [carry_hours_toInt, Int.tmod_eq_emod_of_nonneg hhourpos]
  rw [carry_minutes_toInt, Int.tmod_eq_emod_of_nonneg hminpos]
  rw [carry_seconds_toInt, Int.tmod_eq_emod_of_nonneg hsecpos]
  omega

end

def writtenMonths (cs : List Component) : Nat :=
  12 * amountOf .years cs + amountOf .months cs

def writtenSeconds (cs : List Component) : Nat :=
  86400 * (7 * amountOf .weeks cs + amountOf .days cs) + 3600 * amountOf .hours cs
    + 60 * amountOf .minutes cs + amountOf .seconds cs

def uncarriedTotal (cs : List Component) : Span :=
  ⟨Amount.clamp (amountOf .years cs), Amount.clamp (amountOf .months cs),
    Amount.clamp (7 * amountOf .weeks cs + amountOf .days cs), Amount.clamp (amountOf .hours cs),
    Amount.clamp (amountOf .minutes cs), Amount.clamp (amountOf .seconds cs), 0⟩

theorem total_eq_carry (cs : List Component) : total cs = (uncarriedTotal cs).carry := rfl

theorem nanoseconds_total (cs : List Component) : (total cs).nanoseconds = 0 := by
  change (0 : Amount) % 1000000000 = 0
  decide

theorem uncarriedTotal_toInt {cs : List Component} (h : InRange cs) :
    (uncarriedTotal cs).years.toInt = amountOf .years cs
      ∧ (uncarriedTotal cs).months.toInt = amountOf .months cs
      ∧ (uncarriedTotal cs).days.toInt = 7 * amountOf .weeks cs + amountOf .days cs
      ∧ (uncarriedTotal cs).hours.toInt = amountOf .hours cs
      ∧ (uncarriedTotal cs).minutes.toInt = amountOf .minutes cs
      ∧ (uncarriedTotal cs).seconds.toInt = amountOf .seconds cs := by
  have hle := amountOf_le h.digits
  have hclamp (u : Word) : (Amount.clamp (amountOf u cs)).toInt = amountOf u cs := by
    have := hle u
    apply Amount.clamp_toInt_of_le <;> omega
  have hdays := h.days
  refine ⟨hclamp .years, hclamp .months, ?_, hclamp .hours, hclamp .minutes, hclamp .seconds⟩
  apply Amount.clamp_toInt_of_le <;> omega

theorem uncarriedTotal_along {cs : List Component} (h : InRange cs) :
    (uncarriedTotal cs).Along 1 := by
  have ⟨_, _, _, _, _, _⟩ := uncarriedTotal_toInt h
  have hnanos : (uncarriedTotal cs).nanoseconds.toInt = 0 := rfl
  constructor <;> omega

theorem totals_uncarriedTotal {cs : List Component} (h : InRange cs) :
    (uncarriedTotal cs).totalMonths = writtenMonths cs
      ∧ (uncarriedTotal cs).totalSeconds = writtenSeconds cs := by
  have ⟨_, _, _, _, _, _⟩ := uncarriedTotal_toInt h
  constructor
  · unfold totalMonths writtenMonths
    omega
  · unfold totalSeconds totalMinutes totalHours writtenSeconds
    omega

/--
The span that is read counts what is written if and only if no sum leaves the range of amounts when
the amounts are carried. It never counts more.
-/
theorem ofText?_total_iff {text : String} {s : Span} (h : ofText? text = some s) :
    ∃ cs, Decomposes Word.order cs text.toList ∧
      let years := amountOf .years cs + amountOf .months cs / 12
      let minutes := amountOf .minutes cs + amountOf .seconds cs / 60
      let hours := amountOf .hours cs + minutes / 60
      let days := 7 * amountOf .weeks cs + amountOf .days cs + hours / 24
      s.totalMonths ≤ writtenMonths cs
        ∧ (s.totalMonths = writtenMonths cs ↔ years ≤ 9223372036854775807)
        ∧ s.totalSeconds ≤ writtenSeconds cs
        ∧ (s.totalSeconds = writtenSeconds cs
          ↔ minutes ≤ 9223372036854775807 ∧ hours ≤ 9223372036854775807
            ∧ days ≤ 9223372036854775807)
        ∧ s.nanoseconds = 0 := by
  obtain ⟨cs, hcs, hrange, rfl⟩ := ofText?_eq_some_iff.mp h
  have ⟨hyears, hmonths, hdays, hhours, hminutes, hseconds⟩ := uncarriedTotal_toInt hrange
  have ⟨hwritten, hwritten'⟩ := totals_uncarriedTotal hrange
  have halong := uncarriedTotal_along hrange
  have ⟨hle, hiff⟩ := totalMonths_carry_iff halong
  have ⟨hle', hiff'⟩ := totalSeconds_carry_iff halong rfl
  rw [hwritten] at hle hiff
  rw [hwritten'] at hle' hiff'
  refine ⟨cs, hcs, ?_⟩
  rw [total_eq_carry]
  refine ⟨hle, ?_, hle', ?_, nanoseconds_total cs⟩
  · rw [hiff]
    omega
  · rw [hiff']
    omega

theorem ofText?_total_iff_most_years :
    let text := "9223372036854775807y11m2w3d25h61M90s"
    let part (u : Word) (digits word : String) : Component :=
      ⟨u, digits.toList, false, word, false⟩
    let cs := [part .years "9223372036854775807" "y", part .months "11" "m", part .weeks "2" "w",
      part .days "3" "d", part .hours "25" "h", part .minutes "61" "M", part .seconds "90" "s"]
    let s := ofParts 9223372036854775807 11 18 2 2 30
    ofText? text = some s ∧ Decomposes Word.order cs text.toList
      ∧ s.totalMonths = writtenMonths cs ∧ s.totalSeconds = writtenSeconds cs := by
  intro text part cs s
  have h : ofText? text = some s := by decide +kernel
  have hcs : Decomposes Word.order cs text.toList := by decide +kernel
  obtain ⟨cs', hcs', _, hmonths, _, hseconds, _⟩ := ofText?_total_iff h
  rw [hcs'.eq hcs] at hmonths hseconds
  exact ⟨h, hcs, hmonths.mpr (by decide +kernel), hseconds.mpr (by decide +kernel)⟩

/-- The year that twelve months make does not fit on top of the largest number of years. -/
theorem ofText?_year_lost :
    let text := "9223372036854775807y12m"
    let years : Component := ⟨.years, "9223372036854775807".toList, false, "y", false⟩
    let months : Component := ⟨.months, "12".toList, false, "m", false⟩
    let s := ofParts 9223372036854775807 0 0 0 0 0
    ofText? text = some s ∧ Decomposes Word.order [years, months] text.toList
      ∧ s.totalMonths + 12 = writtenMonths [years, months] := by
  decide +kernel

end Span

end TimeMarkup
