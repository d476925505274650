import TimeMarkup.Proofs.Timestamp.Existence
import TimeMarkup.Proofs.Timestamp.Reader.Fields
import TimeMarkup.Timestamp.Basic

/-!
This module contains the texts that stand for an instant. The main statement says that these are the
texts of the grammar whose parts exist, together with those of a half-dashed week date, and that all
other texts are refused with the whole text.
-/

namespace TimeMarkup

namespace Iso

theorem DateForm.length_ne {cs : List Char} {d : DateFields} (h : DateForm cs d) :
    cs.length ≠ 9 := by
  cases h with
  | year hy => simp [hy.length_eq]
  | month hy hm => simp [hy.length_eq, hm.length_eq]
  | day hy hm hd => simp [hy.length_eq, hm.length_eq, hd.length_eq]
  | basicDay hy hm hd => simp [hy.length_eq, hm.length_eq, hd.length_eq]
  | week hy hw => simp [hy.length_eq, hw.length_eq]
  | weekday hy hw hd => simp [hy.length_eq, hw.length_eq, hd.length_eq]
  | basicWeek hy hw => simp [hy.length_eq, hw.length_eq]
  | basicWeekday hy hw hd => simp [hy.length_eq, hw.length_eq, hd.length_eq]

theorem HalfDashedForm.length_eq {cs : List Char} {d : DateFields} (h : HalfDashedForm cs d) :
    cs.length = 9 := by
  cases h with
  | before hy hw hd => simp [hy.length_eq, hw.length_eq, hd.length_eq]
  | after hy hw hd => simp [hy.length_eq, hw.length_eq, hd.length_eq]

theorem ReadableDate.year_le {cs : List Char} {d : DateFields} (h : ReadableDate cs d) :
    d.year ≤ 9999 := by
  have hyear {ys : List Char} {y : Nat} (hy : IsNumber 4 y ys) : y ≤ 9999 := by
    have := hy.lt
    omega
  cases h with
  | inl h => cases h <;> exact hyear (by assumption)
  | inr h => cases h <;> exact hyear (by assumption)

theorem TimeForm.isDigit_fraction {cs : List Char} {t : TimeFields} (h : TimeForm cs t) :
    ∀ c ∈ t.fraction, c.isDigit := by
  cases h with
  | hour => simp
  | minute => simp
  | basicMinute => simp
  | second hh hm hs hf => exact hf.isDigit
  | basicSecond hh hm hs hf => exact hf.isDigit

namespace TimestampForm

variable {Form Form' : List Char → DateFields → Prop} {cs : List Char} {f : Fields}

theorem mono (h : TimestampForm Form cs f) (hform : ∀ ds d, Form ds d → Form' ds d) :
    TimestampForm Form' cs f := by
  cases h with
  | date hd => exact .date (hform _ _ hd)
  | time hd hc ht => exact .time (hform _ _ hd) hc ht
  | offset hd hc ht ho => exact .offset (hform _ _ hd) hc ht ho

theorem or_of_readableDate (h : TimestampForm ReadableDate cs f) :
    TimestampForm DateForm cs f ∨ TimestampForm HalfDashedForm cs f := by
  cases h with
  | date hd => exact hd.imp .date .date
  | time hd hc ht => exact hd.imp (.time · hc ht) (.time · hc ht)
  | offset hd hc ht ho => exact hd.imp (.offset · hc ht ho) (.offset · hc ht ho)

theorem exists_date (h : TimestampForm Form cs f) :
    ∃ ds rest, cs = ds ++ rest ∧ Form ds f.date ∧ ∀ c ∈ rest.head?, IsSeparator c := by
  cases h with
  | date hd => exact ⟨cs, [], by simp, hd, by simp⟩
  | @time ds ts c d t hd hc ht => exact ⟨ds, c :: ts, rfl, hd, by simpa using hc⟩
  | @offset ds ts os c d t o hd hc ht ho =>
    exact ⟨ds, c :: (ts ++ os), by simp, hd, by simpa using hc⟩

theorem isDigit_fraction (h : TimestampForm Form cs f) :
    ∀ t ∈ f.time, ∀ c ∈ t.fraction, c.isDigit := by
  cases h with
  | date hd => simp
  | time hd hc ht => simpa using ht.isDigit_fraction
  | offset hd hc ht ho => simpa using ht.isDigit_fraction

theorem not_halfDashed (h : TimestampForm DateForm cs f) {f' : Fields} :
    ¬ TimestampForm HalfDashedForm cs f' := by
  intro h'
  obtain ⟨ds, rest, rfl, hd, hrest⟩ := h.exists_date
  obtain ⟨ds', rest', hcs, hd', hrest'⟩ := h'.exists_date
  -- the reader stops at the same place for both, so that the dates have the same length
  have hread := date?_complete (.inl hd) rest hrest
  have hread' := date?_complete (.inr hd') rest' hrest'
  rw [hcs, hread', Option.some.injEq, Prod.mk.injEq] at hread
  rw [hread.2] at hcs
  have hlength := hd'.length_eq
  rw [← List.append_cancel_right hcs] at hlength
  exact hd.length_ne hlength

end TimestampForm

theorem Writes.mono {Form Form' : List Char → DateFields → Prop} {s : String} (h : Writes Form s)
    (hform : ∀ ds d, Form ds d → Form' ds d) : Writes Form' s := by
  obtain ⟨f, hwritten, hexists⟩ := h
  exact ⟨f, hwritten.mono hform, hexists⟩

theorem writes_readableDate_iff {s : String} :
    Writes ReadableDate s ↔ Writes DateForm s ∨ Writes HalfDashedForm s := by
  constructor
  · rintro ⟨f, hform, hexists⟩
    exact hform.or_of_readableDate.imp (⟨f, ·, hexists⟩) (⟨f, ·, hexists⟩)
  · intro h
    cases h with
    | inl h => exact h.mono (fun _ _ => .inl)
    | inr h => exact h.mono (fun _ _ => .inr)

theorem not_writes_of_halfDashed {s : String} (h : Writes HalfDashedForm s) :
    ¬ Writes DateForm s := by
  obtain ⟨f', hform', -⟩ := h
  rintro ⟨f, hform, -⟩
  exact hform.not_halfDashed hform'

theorem instant?_isSome_iff_writes {s : String} :
    ((fields? s.toList).bind Fields.instant?).isSome ↔ Writes ReadableDate s := by
  have hexists {f : Fields} (hform : TimestampForm ReadableDate s.toList f) :
      f.instant?.isSome ↔ f.Exists := by
    obtain ⟨ds, rest, -, hd, -⟩ := hform.exists_date
    exact Fields.instant?_isSome_iff hd.year_le hform.isDigit_fraction
  constructor
  · intro h
    obtain ⟨i, h⟩ := Option.isSome_iff_exists.mp h
    obtain ⟨f, hfields, hinstant⟩ := Option.bind_eq_some_iff.mp h
    have hform := fields?_eq_some_iff.mp hfields
    exact ⟨f, hform, (hexists hform).mp (by simp [hinstant])⟩
  · rintro ⟨f, hform, hf⟩
    rw [fields?_eq_some_iff.mpr hform]
    exact (hexists hform).mpr hf

end Iso

namespace Timestamp

open Iso

theorem resolve_text_ok_iff {s : String} :
    (∃ i, (text s).resolve = .ok i) ↔ Writes ReadableDate s := by
  rw [← instant?_isSome_iff_writes]
  simp only [resolve, Instant.ofText]
  cases (fields? s.toList).bind Fields.instant? <;> simp

theorem eq_of_resolve_text_error {s : String} {e : Error} (h : (text s).resolve = .error e) :
    e = .unreadableTimestamp s := by
  simp only [resolve, Instant.ofText] at h
  split at h
  · cases h
  · cases h
    rfl

/-- The reader and the grammar differ only on the texts that write a half-dashed week date. -/
theorem resolve_text_grammar (s : String) :
    ((∃ i, (text s).resolve = .ok i) ↔ Writes DateForm s ∨ Writes HalfDashedForm s)
      ∧ (((∃ i, (text s).resolve = .ok i) ↔ Writes DateForm s) ↔ ¬ Writes HalfDashedForm s)
      ∧ ∀ e, (text s).resolve = .error e → e = .unreadableTimestamp s ∧ e.kind = .parse := by
  rw [resolve_text_ok_iff, writes_readableDate_iff]
  refine ⟨Iff.rfl, ?_, ?_⟩
  · constructor
    · intro h hhalf
      exact not_writes_of_halfDashed hhalf (h.mp (.inr hhalf))
    · intro hhalf
      exact or_iff_left hhalf
  · intro e he
    cases eq_of_resolve_text_error he
    exact ⟨rfl, rfl⟩

/-- Monday of the first week of 2021, with one of the two dashes missing. -/
theorem resolve_text_half_dashed_week :
    (∃ i, (text "2021-W011").resolve = .ok i) ∧ ¬ Writes DateForm "2021-W011" := by
  have hyear : IsNumber 4 2021 ['2', '0', '2', '1'] := ⟨rfl, by simp, rfl⟩
  have hweek : IsNumber 2 1 ['0', '1'] := ⟨rfl, by simp, rfl⟩
  have hday : IsNumber 1 1 ['1'] := ⟨rfl, by simp, rfl⟩
  have hthursday : thursday 2021 1 < monthStart (monthIndex (2021 + 1) 1) := by decide +kernel
  have hhalf : Writes HalfDashedForm "2021-W011" := by
    refine ⟨⟨.week 2021 1 1, none, none⟩, ?_, ?_⟩
    · exact .date (.before hyear hweek hday (by decide))
    · exact ⟨⟨⟨by decide, hthursday⟩, by decide⟩, by simp, by simp⟩
  constructor
  · rw [resolve_text_ok_iff, writes_readableDate_iff]
    exact .inr hhalf
  · exact not_writes_of_halfDashed hhalf

end Timestamp

end TimeMarkup
