import TimeMarkup.Proofs.Timestamp.Reader.Date
import TimeMarkup.Proofs.Timestamp.Reader.Time

/-!
This module contains the correspondence between the reader of timestamps and their grammar. The
main statement says that `fields?` reads the texts of the grammar and those with a half-dashed week
date, and no others.
-/

namespace TimeMarkup

namespace Iso

theorem fields?_sound {cs : List Char} {f : Fields} (h : fields? cs = some f) :
    TimestampForm ReadableDate cs f := by
  simp only [fields?, Option.bind_eq_bind, Option.bind_eq_some_iff] at h
  obtain ⟨⟨d, cs'⟩, hdate, h⟩ := h
  obtain ⟨ds, rfl, hd⟩ := date?_sound hdate
  dsimp only at h
  split at h
  · cases h
    rw [List.append_nil]
    exact .date hd
  · next c cs'' =>
    simp only [Option.ite_none_right_eq_some, Option.bind_eq_some_iff] at h
    obtain ⟨hc, ⟨t, cs'''⟩, htime, h⟩ := h
    obtain ⟨ts, rfl, ht⟩ := time?_sound htime
    dsimp only at h
    split at h
    · cases h
      rw [List.append_nil]
      exact .time hd hc ht
    · simp only [Option.bind_eq_some_iff, Option.ite_none_right_eq_some, Option.pure_def,
        Option.some.injEq] at h
      obtain ⟨⟨o, rest⟩, hoffset, hrest, rfl⟩ := h
      obtain ⟨os, rfl, ho⟩ := offset?_sound hoffset
      subst hrest
      rw [List.append_nil]
      have hform := TimestampForm.offset hd hc ht ho
      rw [List.append_assoc] at hform
      exact hform

theorem OffsetForm.head {os : List Char} {o : OffsetFields} (h : OffsetForm os o) :
    ∃ c cs, os = c :: cs ∧ IsOffsetStart c := by
  have hsign {c : Char} {negative : Bool} (hc : IsSign c negative) : IsOffsetStart c := by
    cases hc with
    | plus => exact .inr (.inr (.inl rfl))
    | minus => exact .inr (.inr (.inr rfl))
  cases h with
  | zulu hc => exact ⟨_, _, rfl, hc.elim .inl (fun hc => .inr (.inl hc))⟩
  | hours hc hh => exact ⟨_, _, rfl, hsign hc⟩
  | basicMinutes hc hh hm => exact ⟨_, _, rfl, hsign hc⟩
  | minutes hc hh hm => exact ⟨_, _, rfl, hsign hc⟩

theorem fields?_complete {cs : List Char} {f : Fields} (h : TimestampForm ReadableDate cs f) :
    fields? cs = some f := by
  cases h with
  | date hd =>
    have hdate := date?_complete hd [] (by simp)
    rw [List.append_nil] at hdate
    simp [fields?, hdate]
  | @time ds ts c d t hd hc ht =>
    have hdate := date?_complete hd (c :: ts) (by simpa using hc)
    have htime := time?_complete ht [] (by simp)
    rw [List.append_nil] at htime
    unfold IsSeparator at hc
    simp [fields?, hdate, htime, hc]
  | @offset ds ts os c d t o hd hc ht ho =>
    obtain ⟨c', os', hos, hc'⟩ := ho.head
    have hdate := date?_complete hd (c :: (ts ++ os)) (by simpa using hc)
    have htime := time?_complete ht os (by simpa [hos] using hc')
    have hne : os ≠ [] := by simp [hos]
    unfold IsSeparator at hc
    simp [fields?, hdate, htime, hc, offset?_complete ho]

theorem fields?_eq_some_iff {cs : List Char} {f : Fields} :
    fields? cs = some f ↔ TimestampForm ReadableDate cs f := by
  constructor
  · exact fields?_sound
  · exact fields?_complete

end Iso

end TimeMarkup
