import TimeMarkup.Proofs.Timestamp.Grammar

/-!
This module contains the correspondence between the readers of dates and the forms of a date.
-/

namespace TimeMarkup

namespace Iso

def ReadableDate (cs : List Char) (d : DateFields) : Prop :=
  DateForm cs d ∨ HalfDashedForm cs d

theorem weekday?_eq_some_iff {cs rest : List Char} {day : Nat} :
    weekday? cs = some (day, rest)
      ↔ (∃ ds, cs = ds ++ rest ∧ IsNumber 1 day ds) ∧ 1 ≤ day ∧ day ≤ 7 := by
  rw [← readNumber?_eq_some_iff]
  unfold weekday?
  split
  · next n rest' h =>
    rw [h]
    grind
  · next h =>
    rw [h]
    simp

inductive WeekTail (year : Nat) : List Char → DateFields → Prop where
  | week {ws w} (hw : IsNumber 2 w ws) : WeekTail year ws (.week year w 1)
  | weekday {ws ds w d} (hw : IsNumber 2 w ws) (hd : IsNumber 1 d ds) (hd' : 1 ≤ d ∧ d ≤ 7) :
    WeekTail year (ws ++ ds) (.week year w d)
  | dashedWeekday {ws ds w d} (hw : IsNumber 2 w ws) (hd : IsNumber 1 d ds) (hd' : 1 ≤ d ∧ d ≤ 7) :
    WeekTail year (ws ++ '-' :: ds) (.week year w d)

theorem weekDate?_sound {cs rest : List Char} {year : Nat} {d : DateFields}
    (h : weekDate? year cs = some (d, rest)) :
    ∃ text, cs = text ++ rest ∧ WeekTail year text d := by
  simp only [weekDate?, Option.bind_eq_bind, readNumber?_bind_eq_some_iff] at h
  obtain ⟨w, ws, cs', rfl, hw, h⟩ := h
  split at h
  · simp only [Option.bind_eq_some_iff, Option.pure_def, Option.some.injEq, Prod.mk.injEq] at h
    obtain ⟨⟨day, rest'⟩, hday, rfl, rfl⟩ := h
    obtain ⟨⟨ds, rfl, hd⟩, hd'⟩ := weekday?_eq_some_iff.mp hday
    exact ⟨ws ++ '-' :: ds, by simp, .dashedWeekday hw hd hd'⟩
  · split at h
    · next day rest' hday =>
      cases h
      obtain ⟨⟨ds, rfl, hd⟩, hd'⟩ := weekday?_eq_some_iff.mp hday
      exact ⟨ws ++ ds, by simp, .weekday hw hd hd'⟩
    · cases h
      exact ⟨ws, rfl, .week hw⟩

theorem WeekTail.readableDate {year : Nat} {ys text : List Char} {d : DateFields}
    (hy : IsNumber 4 year ys) (h : WeekTail year text d) :
    ReadableDate (ys ++ 'W' :: text) d ∧ ReadableDate (ys ++ '-' :: 'W' :: text) d := by
  cases h with
  | week hw => exact ⟨.inl (.basicWeek hy hw), .inl (.week hy hw)⟩
  | weekday hw hd hd' =>
    have h₁ := DateForm.basicWeekday hy hw hd hd'
    have h₂ := HalfDashedForm.before hy hw hd hd'
    simp only [List.append_assoc, List.cons_append] at h₁ h₂
    exact ⟨.inl h₁, .inr h₂⟩
  | dashedWeekday hw hd hd' =>
    have h₁ := HalfDashedForm.after hy hw hd hd'
    have h₂ := DateForm.weekday hy hw hd hd'
    simp only [List.append_assoc, List.cons_append] at h₁ h₂
    exact ⟨.inr h₁, .inl h₂⟩

theorem date?_sound {cs rest : List Char} {d : DateFields} (h : date? cs = some (d, rest)) :
    ∃ text, cs = text ++ rest ∧ ReadableDate text d := by
  simp only [date?, Option.bind_eq_bind, readNumber?_bind_eq_some_iff] at h
  obtain ⟨y, ys, cs', rfl, hy, h⟩ := h
  split at h
  · obtain ⟨text, rfl, hd⟩ := weekDate?_sound h
    exact ⟨ys ++ '-' :: 'W' :: text, by simp, (hd.readableDate hy).2⟩
  · obtain ⟨text, rfl, hd⟩ := weekDate?_sound h
    exact ⟨ys ++ 'W' :: text, by simp, (hd.readableDate hy).1⟩
  · simp only [readNumber?_bind_eq_some_iff] at h
    obtain ⟨m, ms, cs'', rfl, hm, h⟩ := h
    split at h
    · simp only [readNumber?_bind_eq_some_iff, Option.pure_def, Option.some.injEq,
        Prod.mk.injEq] at h
      obtain ⟨day, ds, rest', rfl, hd, rfl, rfl⟩ := h
      exact ⟨ys ++ '-' :: ms ++ '-' :: ds, by simp, .inl (.day hy hm hd)⟩
    · cases h
      exact ⟨ys ++ '-' :: ms, by simp, .inl (.month hy hm)⟩
  · split at h
    · next monthDay rest' hread =>
      cases h
      obtain ⟨ds, rfl, hds⟩ := readNumber?_eq_some_iff.mp hread
      obtain ⟨ms, ds, rfl, hm, hd⟩ := IsNumber.exists_append 2 2 hds
      exact ⟨ys ++ ms ++ ds, by simp, .inl (.basicDay hy hm hd)⟩
    · cases h
      exact ⟨ys, rfl, .inl (.year hy)⟩

theorem IsSeparator.isDigit {c : Char} (h : IsSeparator c) : c.isDigit = false := by
  rcases h with rfl | rfl | rfl <;> decide

-- In the proofs below simp takes from the context that a rest does not start like a pattern.
theorem weekDate?_complete {text rest : List Char} {year : Nat} {d : DateFields}
    (h : WeekTail year text d) (hrest : ∀ c ∈ rest.head?, IsSeparator c) :
    weekDate? year (text ++ rest) = some (d, rest) := by
  have hnone : readNumber? 1 rest = none := readNumber?_eq_none (fun c hc => (hrest c hc).isDigit)
  cases h with
  | week hw =>
    have hdash : ∀ cs, rest ≠ '-' :: cs := by
      rintro cs rfl
      simpa [IsSeparator] using hrest '-' rfl
    simp only [weekDate?, readNumber?_append hw]
    simp [weekday?, hnone]
  | @weekday ws ds w d hw hd hd' =>
    have hday : weekday? (ds ++ rest) = some (d, rest) :=
      weekday?_eq_some_iff.mpr ⟨⟨ds, rfl, hd⟩, hd'⟩
    have hdash : ∀ cs, ds ++ rest ≠ '-' :: cs := fun cs => hd.append_ne_cons (by decide)
    simp only [weekDate?, List.append_assoc, readNumber?_append hw]
    simp [hday]
  | @dashedWeekday ws ds w d hw hd hd' =>
    have hday : weekday? (ds ++ rest) = some (d, rest) :=
      weekday?_eq_some_iff.mpr ⟨⟨ds, rfl, hd⟩, hd'⟩
    simp only [weekDate?, List.append_assoc, List.cons_append, readNumber?_append hw]
    simp [hday]

theorem date?_append_week {ys : List Char} {y : Nat} (hy : IsNumber 4 y ys) (cs : List Char) :
    date? (ys ++ 'W' :: cs) = weekDate? y cs := by
  simp [date?, readNumber?_append hy]

theorem date?_append_dash_week {ys : List Char} {y : Nat} (hy : IsNumber 4 y ys) (cs : List Char) :
    date? (ys ++ '-' :: 'W' :: cs) = weekDate? y cs := by
  simp [date?, readNumber?_append hy]

theorem date?_complete {text : List Char} {d : DateFields} (h : ReadableDate text d)
    (rest : List Char) (hrest : ∀ c ∈ rest.head?, IsSeparator c) :
    date? (text ++ rest) = some (d, rest) := by
  have hdash : ∀ cs, rest ≠ '-' :: cs := by
    rintro cs rfl
    simpa [IsSeparator] using hrest '-' rfl
  have hdashWeek : ∀ cs, rest ≠ '-' :: 'W' :: cs := fun cs => hdash _
  have hweek : ∀ cs, rest ≠ 'W' :: cs := by
    rintro cs rfl
    simpa [IsSeparator] using hrest 'W' rfl
  have hnone : readNumber? 4 rest = none := readNumber?_eq_none (fun c hc => (hrest c hc).isDigit)
  cases h with
  | inl h =>
    cases h with
    | year hy => simp [date?, readNumber?_append hy, hnone]
    | @month ys ms y m hy hm =>
      have hm' : ∀ cs, ms ++ rest ≠ 'W' :: cs := fun cs => hm.append_ne_cons (by decide)
      simp [date?, readNumber?_append hy, readNumber?_append hm]
    | @day ys ms ds y m d hy hm hd =>
      have hm' : ∀ cs, ms ++ '-' :: (ds ++ rest) ≠ 'W' :: cs :=
        fun cs => hm.append_ne_cons (by decide)
      simp [date?, readNumber?_append hy, readNumber?_append hm, readNumber?_append hd]
    | @basicDay ys ms ds y m d hy hm hd =>
      have hm₁ : ∀ cs, ms ++ (ds ++ rest) ≠ 'W' :: cs := fun cs => hm.append_ne_cons (by decide)
      have hm₂ : ∀ cs, ms ++ (ds ++ rest) ≠ '-' :: cs := fun cs => hm.append_ne_cons (by decide)
      have hm₃ : ∀ cs, ms ++ (ds ++ rest) ≠ '-' :: 'W' :: cs := fun cs => hm₂ _
      have hread := readNumber?_append (hm.append hd) rest
      have hlt := hd.lt
      have hdiv : (10 ^ 2 * m + d) / 100 = m := by omega
      have hmod : (10 ^ 2 * m + d) % 100 = d := by omega
      rw [List.append_assoc] at hread
      simp [date?, readNumber?_append hy, hread]
      omega
    | @week ys ws y w hy hw =>
      have htail : WeekTail y ws _ := .week hw
      simp [date?_append_dash_week hy, weekDate?_complete htail hrest]
    | @weekday ys ws ds y w d hy hw hd hd' =>
      have htail : WeekTail y (ws ++ '-' :: ds) _ := .dashedWeekday hw hd hd'
      simpa [date?_append_dash_week hy] using weekDate?_complete htail hrest
    | @basicWeek ys ws y w hy hw =>
      have htail : WeekTail y ws _ := .week hw
      simp [date?_append_week hy, weekDate?_complete htail hrest]
    | @basicWeekday ys ws ds y w d hy hw hd hd' =>
      have htail : WeekTail y (ws ++ ds) _ := .weekday hw hd hd'
      simpa [date?_append_week hy] using weekDate?_complete htail hrest
  | inr h =>
    cases h with
    | @before ys ws ds y w d hy hw hd hd' =>
      have htail : WeekTail y (ws ++ ds) _ := .weekday hw hd hd'
      simpa [date?_append_dash_week hy] using weekDate?_complete htail hrest
    | @after ys ws ds y w d hy hw hd hd' =>
      have htail : WeekTail y (ws ++ '-' :: ds) _ := .dashedWeekday hw hd hd'
      simpa [date?_append_week hy] using weekDate?_complete htail hrest

end Iso

end TimeMarkup
