import TimeMarkup.Proofs.Timestamp.Acceptance
import TimeMarkup.Proofs.Timestamp.Spelling

/-!
This module contains the reading of spelled timestamps. The main statement says that every spelling
is accepted and stands for the moment that it spells, and that an instant written on the clocks of
any offset reads back as itself.
-/

namespace TimeMarkup

namespace Iso

section

variable {d : Date}

theorem isNumber_year {year : Int} (h : 0 ≤ year ∧ year ≤ 9999) :
    IsNumber 4 year.toNat (padded 4 year.toNat).toList := by
  apply isNumber_padded <;> omega

theorem isNumber_month : IsNumber 2 d.month.toNat (padded 2 d.month.toNat).toList := by
  have hmonth := d.month_le
  apply isNumber_padded <;> omega

theorem isNumber_day : IsNumber 2 d.day.toNat (padded 2 d.day.toNat).toList := by
  have hday := d.day_le
  have hmonth := daysInMonth_le d.year d.month
  apply isNumber_padded <;> omega

theorem isNumber_weekNumber :
    IsNumber 2 d.weekNumber.toNat (padded 2 d.weekNumber.toNat).toList := by
  have hweek := d.weekNumber_le
  apply isNumber_padded <;> omega

theorem isNumber_dayOfWeek : IsNumber 1 d.dayOfWeek.toNat (padded 1 d.dayOfWeek.toNat).toList := by
  have hday := d.dayOfWeek_bounds
  apply isNumber_padded <;> omega

theorem dayOfWeek_toNat_bounds : 1 ≤ d.dayOfWeek.toNat ∧ d.dayOfWeek.toNat ≤ 7 := by
  have hday := d.dayOfWeek_bounds
  omega

theorem date?_calendar_toNat (hyear : 0 ≤ d.year) :
    (DateFields.calendar d.year.toNat d.month.toNat d.day.toNat).date? = some d := by
  have hmonth := d.one_le_month
  have hday := d.one_le_day
  unfold DateFields.date?
  dsimp only
  rw [Date.ofFields?_eq_some_iff]
  omega

theorem date?_week_toNat (hyear : 0 ≤ d.weekYear) :
    (DateFields.week d.weekYear.toNat d.weekNumber.toNat d.dayOfWeek.toNat).date? = some d := by
  have hweek := d.weekNumber_bounds
  have hday := d.dayOfWeek_bounds
  unfold DateFields.date?
  dsimp only
  rw [Int.toNat_of_nonneg hyear]
  rw [Int.toNat_of_nonneg (by omega)]
  rw [Int.toNat_of_nonneg (by omega)]
  exact d.ofWeek?_weekYear

theorem DateStyle.exists_dateForm {style : DateStyle} (h : style.Fits d) :
    ∃ f, DateForm (style.write d).toList f ∧ f.date? = some d := by
  cases style with
  | year =>
    obtain ⟨hyear, hmonth, hday⟩ := h
    have hdate := date?_calendar_toNat hyear.1
    rw [hmonth, hday] at hdate
    exact ⟨_, .year (isNumber_year hyear), hdate⟩
  | month =>
    obtain ⟨hyear, hday⟩ := h
    have hdate := date?_calendar_toNat hyear.1
    rw [hday] at hdate
    refine ⟨_, ?_, hdate⟩
    simpa [write] using DateForm.month (isNumber_year hyear) isNumber_month
  | day =>
    refine ⟨_, ?_, date?_calendar_toNat h.1⟩
    simpa [write] using DateForm.day (isNumber_year h) isNumber_month isNumber_day
  | basicDay =>
    refine ⟨_, ?_, date?_calendar_toNat h.1⟩
    simpa [write] using DateForm.basicDay (isNumber_year h) isNumber_month isNumber_day
  | week =>
    obtain ⟨hyear, hday⟩ := h
    have hdate := date?_week_toNat hyear.1
    rw [hday] at hdate
    refine ⟨_, ?_, hdate⟩
    simpa [write] using DateForm.week (isNumber_year hyear) isNumber_weekNumber
  | weekday =>
    refine ⟨_, ?_, date?_week_toNat h.1⟩
    simpa [write] using
      DateForm.weekday (isNumber_year h) isNumber_weekNumber isNumber_dayOfWeek
        dayOfWeek_toNat_bounds
  | basicWeek =>
    obtain ⟨hyear, hday⟩ := h
    have hdate := date?_week_toNat hyear.1
    rw [hday] at hdate
    refine ⟨_, ?_, hdate⟩
    simpa [write] using DateForm.basicWeek (isNumber_year hyear) isNumber_weekNumber
  | basicWeekday =>
    refine ⟨_, ?_, date?_week_toNat h.1⟩
    simpa [write] using
      DateForm.basicWeekday (isNumber_year h) isNumber_weekNumber isNumber_dayOfWeek
        dayOfWeek_toNat_bounds

end

theorem TimeFields.Exists.bounds {t : TimeFields} (h : t.Exists) :
    t.hour ≤ 24 ∧ t.minute ≤ 59 ∧ t.second ≤ 59 := by
  unfold TimeFields.Exists at h
  omega

theorem TimeStyle.timeForm {style : TimeStyle} {t : TimeFields} (h : t.Exists)
    (hfits : style.Fits t) : TimeForm (style.write t).toList t := by
  obtain ⟨hour, minute, second, fraction⟩ := t
  obtain ⟨hhour, hminute, hsecond⟩ : hour ≤ 24 ∧ minute ≤ 59 ∧ second ≤ 59 := h.bounds
  have hh : IsNumber 2 hour _ := isNumber_padded (by omega) (by omega)
  have hm : IsNumber 2 minute _ := isNumber_padded (by omega) (by omega)
  have hs : IsNumber 2 second _ := isNumber_padded (by omega) (by omega)
  cases style with
  | hour =>
    obtain ⟨rfl, rfl, rfl⟩ := hfits
    exact .hour hh
  | minute basic =>
    obtain ⟨rfl, rfl⟩ := hfits
    cases basic with
    | false => simpa [write, colon] using TimeForm.minute hh hm
    | true => simpa [write, colon] using TimeForm.basicMinute hh hm
  | second basic =>
    obtain rfl := hfits
    cases basic with
    | false => simpa [write, colon] using TimeForm.second hh hm hs .none
    | true => simpa [write, colon] using TimeForm.basicSecond hh hm hs .none
  | fraction basic comma =>
    have hf :
        FractionForm ((if comma then "," else ".") ++ String.ofList fraction).toList fraction := by
      obtain ⟨hne, hdigit⟩ := hfits
      cases comma with
      | false => simpa using FractionForm.some (.inl rfl) hne hdigit
      | true => simpa using FractionForm.some (.inr rfl) hne hdigit
    cases basic with
    | false => simpa [write, colon] using TimeForm.second hh hm hs hf
    | true => simpa [write, colon] using TimeForm.basicSecond hh hm hs hf

theorem TimeStyle.isDigit_fraction {style : TimeStyle} {t : TimeFields} (h : style.Fits t) :
    ∀ c ∈ t.fraction, c.isDigit := by
  cases style with
  | hour => simp [h.2.2]
  | minute basic => simp [h.2]
  | second basic =>
    unfold Fits at h
    simp [h]
  | fraction basic comma => exact h.2

theorem TimeFields.nanos_eq_div {t : TimeFields} (h : ∀ c ∈ t.fraction, c.isDigit) :
    t.nanos = decimalValue t.fraction * 10 ^ 9 / 10 ^ t.fraction.length := by
  rw [t.nanos_eq]
  by_cases hlength : t.fraction.length ≤ 9
  · have hpow : 10 ^ 9 = 10 ^ (9 - t.fraction.length) * 10 ^ t.fraction.length := by
      rw [← Nat.pow_add, Nat.sub_add_cancel hlength]
    rw [List.take_of_length_le hlength]
    rw [hpow]
    rw [← Nat.mul_assoc]
    rw [Nat.mul_div_cancel _ (Nat.pow_pos (by omega))]
    rw [Nat.mul_comm]
  · have htake : (t.fraction.take 9).length = 9 := by
      rw [List.length_take]
      omega
    have hsplit := decimalValue_append (t.fraction.take 9) (t.fraction.drop 9)
    have hlt := decimalValue_lt (fun c hc => h c (List.mem_of_mem_drop hc) : ∀ c ∈ t.fraction.drop 9, _)
    have hpow : 10 ^ t.fraction.length = 10 ^ (t.fraction.drop 9).length * 10 ^ 9 := by
      rw [← Nat.pow_add, List.length_drop]
      congr 1
      omega
    -- what the digits after the ninth write is less than a nanosecond
    rw [List.take_append_drop] at hsplit
    rw [hsplit]
    rw [hpow]
    rw [Nat.mul_div_mul_right _ _ (by omega)]
    rw [Nat.mul_add_div (Nat.pow_pos (by omega))]
    rw [Nat.div_eq_of_lt hlt]
    rw [htake]
    omega

theorem OffsetFields.isSign (o : OffsetFields) :
    ∃ c, o.sign.toList = [c] ∧ IsSign c o.negative := by
  unfold sign
  cases o.negative with
  | false => exact ⟨'+', rfl, .plus⟩
  | true => exact ⟨'-', rfl, .minus⟩

theorem SpelledOffset.exists_offsetForm {o : SpelledOffset} (h : o.WellFormed) :
    ∃ f, OffsetForm o.text.toList f ∧ f.nanos? = some (o.seconds * nanosPerSecond) := by
  obtain ⟨⟨hhours, hminutes⟩, hfits⟩ := h
  obtain ⟨c, hc, hsign⟩ := o.fields.isSign
  have hh : IsNumber 2 o.fields.hours _ := isNumber_padded (by omega) (by omega)
  have hm : IsNumber 2 o.fields.minutes _ := isNumber_padded (by omega) (by omega)
  have hnanos : o.fields.nanos? = some (o.seconds * nanosPerSecond) := by
    unfold OffsetFields.nanos? seconds nanosPerMinute nanosPerSecond
    rw [if_pos ⟨hhours, hminutes⟩]
    rw [Option.some.injEq]
    split <;> omega
  obtain ⟨⟨negative, hours, minutes⟩, style⟩ := o
  cases style with
  | zulu small =>
    -- the letter reads as a positive zero, also where the offset is a negative one
    obtain ⟨rfl, rfl⟩ := hfits
    refine ⟨⟨false, 0, 0⟩, ?_, ?_⟩
    · cases small with
      | false => simp [text, OffsetStyle.write, OffsetForm.zulu (.inl rfl)]
      | true => simp [text, OffsetStyle.write, OffsetForm.zulu (.inr rfl)]
    · simp [OffsetFields.nanos?, seconds]
  | hours =>
    obtain rfl : minutes = 0 := hfits
    refine ⟨⟨negative, hours, 0⟩, ?_, hnanos⟩
    simpa [text, OffsetStyle.write, hc] using OffsetForm.hours hsign hh
  | minutes basic =>
    refine ⟨⟨negative, hours, minutes⟩, ?_, hnanos⟩
    cases basic with
    | false => simpa [text, OffsetStyle.write, colon, hc] using OffsetForm.minutes hsign hh hm
    | true => simpa [text, OffsetStyle.write, colon, hc] using OffsetForm.basicMinutes hsign hh hm

theorem Separator.isSeparator (separator : Separator) :
    ∃ c, separator.write.toList = [c] ∧ IsSeparator c := by
  cases separator with
  | capital => exact ⟨'T', rfl, .inl rfl⟩
  | small => exact ⟨'t', rfl, .inr (.inl rfl)⟩
  | space => exact ⟨' ', rfl, .inr (.inr rfl)⟩

theorem SpelledTime.nanosOfDay?_eq_some {t : SpelledTime} (h : t.WellFormed) :
    t.fields.nanosOfDay?
      = some ((3600 * t.fields.hour + 60 * t.fields.minute + t.fields.second : Int) * nanosPerSecond
        + t.fractionNanos) := by
  have hdigit := TimeStyle.isDigit_fraction h.fits
  rw [TimeFields.nanosOfDay?_eq_some_iff hdigit]
  refine ⟨h.exists_fields, ?_⟩
  rw [TimeFields.nanos_eq_div hdigit]
  rw [← fractionNanos]
  unfold nanosPerSecond
  omega

theorem Spelling.exists_timestampForm {s : Spelling} (h : s.WellFormed) :
    ∃ f time offset, TimestampForm DateForm s.text.toList f
      ∧ f.date.date? = some s.date
      ∧ f.time.elim (some 0) TimeFields.nanosOfDay? = some time
      ∧ f.offset.elim (some 0) OffsetFields.nanos? = some offset
      ∧ s.nanos = nanosPerDay * s.date.dayNumber + (time - offset) := by
  obtain ⟨date, style, time⟩ := s
  obtain ⟨hfits, htime⟩ := h
  obtain ⟨d, hd, hdate⟩ := DateStyle.exists_dateForm hfits
  unfold text nanos nanosPerDay
  cases time with
  | none =>
    refine ⟨⟨d, none, none⟩, 0, 0, ?_, hdate, rfl, rfl, ?_⟩
    · simpa using TimestampForm.date hd
    · unfold nanosPerSecond
      simp
      omega
  | some t =>
    have ht := htime t rfl
    obtain ⟨separator, fields, style, offset⟩ := t
    obtain ⟨c, hseparator, hc⟩ := separator.isSeparator
    have hform := TimeStyle.timeForm ht.exists_fields ht.fits
    have hnanos := SpelledTime.nanosOfDay?_eq_some ht
    cases offset with
    | none =>
      refine ⟨⟨d, some fields, none⟩, _, 0, ?_, hdate, hnanos, rfl, ?_⟩
      · simpa [SpelledTime.text, hseparator] using TimestampForm.time hd hc hform
      · unfold nanosPerSecond
        simp [SpelledTime.seconds]
        omega
    | some o =>
      obtain ⟨o', ho, hoffset⟩ := SpelledOffset.exists_offsetForm (ht.offset o rfl)
      refine ⟨⟨d, some fields, some o'⟩, _, _, ?_, hdate, hnanos, hoffset, ?_⟩
      · simpa [SpelledTime.text, hseparator] using TimestampForm.offset hd hc hform ho
      · unfold nanosPerSecond
        simp [SpelledTime.seconds]
        omega

end Iso

namespace Timestamp

open Iso

theorem resolve_text_of_timestampForm {s : String} {f : Fields} {date : Date} {time offset : Int}
    (hform : TimestampForm DateForm s.toList f) (hdate : f.date.date? = some date)
    (htime : f.time.elim (some 0) TimeFields.nanosOfDay? = some time)
    (hoffset : f.offset.elim (some 0) OffsetFields.nanos? = some offset) :
    ∃ i, (text s).resolve = .ok i
      ∧ i.nanos = nanosPerDay * date.dayNumber + (time - offset) := by
  have hreadable : TimestampForm ReadableDate s.toList f := hform.mono (fun _ _ => .inl)
  have hyear : f.date.year ≤ 9999 := by
    obtain ⟨ds, rest, -, hd, -⟩ := hreadable.exists_date
    exact hd.year_le
  have hsmall : (time - offset).natAbs ≤ 172800000000000 := by
    have := elim_natAbs_le (fun _ _ h => TimeFields.nanosOfDay?_natAbs_le h) htime
    have := elim_natAbs_le (fun _ _ h => OffsetFields.nanos?_natAbs_le h) hoffset
    omega
  obtain ⟨i, hi⟩ := Option.isSome_iff_exists.mp (DateFields.onDate?_isSome hyear hdate hsmall)
  have hinstant : f.instant? = some i :=
    Fields.instant?_eq_some_iff.mpr ⟨date, time, offset, hdate, htime, hoffset, hi⟩
  refine ⟨i, ?_, Instant.ofNanos?_eq_some_iff.mp hi⟩
  simp only [resolve, Instant.ofText]
  rw [fields?_eq_some_iff.mpr hreadable]
  simp [hinstant]

theorem resolve_spelling {s : Spelling} (h : s.WellFormed) :
    ∃ i, (text s.text).resolve = .ok i ∧ i.nanos = s.nanos := by
  obtain ⟨f, time, offset, hform, hdate, htime, hoffset, hnanos⟩ := s.exists_timestampForm h
  rw [hnanos]
  exact resolve_text_of_timestampForm hform hdate htime hoffset

end Timestamp

namespace Instant

open Iso

variable {i : Instant} {offset : Int} {date : DateStyle} {separator : Separator}
variable {basic comma : Bool} {offsetStyle : OffsetStyle}

theorem localTime_exists : (i.localTime offset).Exists := by
  have hlt : (i.nanos + offset * nanosPerMinute) % nanosPerDay < 86400000000000 := by
    unfold nanosPerDay
    omega
  left
  unfold localTime
  dsimp only
  omega

theorem isNumber_fraction_localTime (i : Instant) (offset : Int) :
    IsNumber 9 (((i.nanos + offset * nanosPerMinute) % nanosPerDay).toNat % 1000000000)
      (i.localTime offset).fraction := by
  unfold localTime
  dsimp only
  apply isNumber_padded <;> omega

theorem spelling_wellFormed (hoffset : offset.natAbs ≤ 1439)
    (hdate : date.Fits (i.localDate offset)) (hstyle : offsetStyle.Fits (.ofMinutes offset)) :
    (i.spelling offset date separator basic comma offsetStyle).WellFormed := by
  have hfraction := isNumber_fraction_localTime i offset
  constructor
  · exact hdate
  · intro t ht
    cases ht
    constructor
    · exact localTime_exists
    · constructor
      · exact List.ne_nil_of_length_eq_add_one hfraction.length_eq
      · exact hfraction.isDigit
    · intro o ho
      cases ho
      refine ⟨?_, hstyle⟩
      unfold OffsetFields.Exists OffsetFields.ofMinutes
      dsimp only
      omega

theorem seconds_ofMinutes :
    (⟨.ofMinutes offset, offsetStyle⟩ : SpelledOffset).seconds = 60 * offset := by
  unfold SpelledOffset.seconds OffsetFields.ofMinutes
  simp only [decide_eq_true_eq]
  split <;> omega

theorem nanos_spelling :
    (i.spelling offset date separator basic comma offsetStyle).nanos = i.nanos := by
  have hfraction := isNumber_fraction_localTime i offset
  unfold Spelling.nanos spelling
  simp only [Option.map_some, Option.getD_some, SpelledTime.seconds, SpelledTime.fractionNanos]
  rw [seconds_ofMinutes]
  rw [hfraction.value_eq]
  rw [hfraction.length_eq]
  rw [Nat.mul_div_cancel _ (Nat.pow_pos (by omega))]
  unfold localDate localTime nanosPerSecond nanosPerMinute nanosPerDay
  rw [Date.dayNumber_ofDayNumber]
  dsimp only
  omega

end Instant

namespace Timestamp

open Iso

/-- Every spelling stands for the moment that it spells, so that all spellings of a moment give the
same instant. In particular an instant reads back from its full spelling at any offset. -/
theorem resolve_text_spelled :
    (∀ s : Spelling, s.WellFormed → ∃ i, (text s.text).resolve = .ok i ∧ i.nanos = s.nanos)
      ∧ (∀ s s' : Spelling, s.WellFormed → s'.WellFormed → s.nanos = s'.nanos →
        (text s.text).resolve = (text s'.text).resolve)
      ∧ ∀ (i : Instant) (offset : Int) (date : DateStyle) (separator : Separator)
        (basic comma : Bool) (offsetStyle : OffsetStyle), offset.natAbs ≤ 1439 →
        date.Fits (i.localDate offset) → offsetStyle.Fits (.ofMinutes offset) →
        (text (i.spelling offset date separator basic comma offsetStyle).text).resolve = .ok i := by
  refine ⟨fun s h => resolve_spelling h, ?_, ?_⟩
  · intro s s' h h' hnanos
    obtain ⟨i, hi, hinanos⟩ := resolve_spelling h
    obtain ⟨i', hi', hinanos'⟩ := resolve_spelling h'
    rw [hi, hi']
    congr 1
    apply Instant.ext
    rw [hinanos, hinanos', hnanos]
  · intro i offset date separator basic comma offsetStyle hoffset hdate hstyle
    obtain ⟨j, hj, hnanos⟩ := resolve_spelling (Instant.spelling_wellFormed hoffset hdate hstyle)
    rw [Instant.nanos_spelling] at hnanos
    rw [hj]
    rw [Instant.ext hnanos]

/-- The midnight that ends the last week of 2020, almost a day behind universal time, and the epoch
an hour ahead of it. -/
theorem resolve_text_spelled_week :
    (∃ i, (text "2020W537T24:00-23:59").resolve = .ok i ∧ i.nanos = 1609804740 * 1000000000)
      ∧ (text "1970-W01-4T01:00:00,000000000+01").resolve = .ok .epoch := by
  constructor
  · let s : Spelling :=
      { date := ⟨2021, 1, 3, by decide, by decide, by decide, by decide⟩
        style := .basicWeekday
        time := some
          ⟨.capital, ⟨24, 0, 0, []⟩, .minute false, some ⟨⟨true, 23, 59⟩, .minutes false⟩⟩ }
    have htext : s.text = "2020W537T24:00-23:59" := by decide +kernel
    have hnanos : s.nanos = 1609804740 * 1000000000 := by decide +kernel
    have hfits : 0 ≤ s.date.weekYear ∧ s.date.weekYear ≤ 9999 := by decide +kernel
    have hwf : s.WellFormed := by
      refine ⟨hfits, ?_⟩
      intro t ht
      cases ht
      refine ⟨.inr ⟨rfl, rfl, rfl, by simp⟩, ⟨rfl, rfl⟩, ?_⟩
      intro o ho
      cases ho
      exact ⟨⟨by decide, by decide⟩, trivial⟩
    rw [← htext, ← hnanos]
    exact resolve_text_spelled.1 s hwf
  · have htext :
        (Instant.epoch.spelling 60 .weekday .capital false true .hours).text
          = "1970-W01-4T01:00:00,000000000+01" := by
      decide +kernel
    rw [← htext]
    have hfits : 0 ≤ (Instant.epoch.localDate 60).weekYear
        ∧ (Instant.epoch.localDate 60).weekYear ≤ 9999 := by decide +kernel
    exact
      resolve_text_spelled.2.2 .epoch 60 .weekday .capital false true .hours (by decide) hfits rfl

end Timestamp

end TimeMarkup
