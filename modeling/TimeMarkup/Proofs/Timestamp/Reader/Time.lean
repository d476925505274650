import TimeMarkup.Proofs.Timestamp.Grammar

/-!
This module contains the correspondence between the readers of times of day and offsets and their
forms.
-/

namespace TimeMarkup

namespace Iso

def IsOffsetStart (c : Char) : Prop :=
  c = 'Z' ∨ c = 'z' ∨ c = '+' ∨ c = '-'

theorem IsOffsetStart.isDigit {c : Char} (h : IsOffsetStart c) : c.isDigit = false := by
  rcases h with rfl | rfl | rfl | rfl <;> decide

theorem fraction?_sound {cs rest ds : List Char} (h : fraction? cs = some (ds, rest)) :
    ∃ text, cs = text ++ rest ∧ FractionForm text ds := by
  unfold fraction? at h
  split at h
  · next c cs' =>
    split at h
    · next hc =>
      simp only [Option.ite_none_left_eq_some, Option.some.injEq, Prod.mk.injEq] at h
      obtain ⟨hne, rfl, rfl⟩ := h
      refine ⟨c :: cs'.takeWhile Char.isDigit, ?_, .some hc hne ?_⟩
      · rw [List.cons_append, List.takeWhile_append_dropWhile]
      · intro d hd
        exact List.all_eq_true.mp List.all_takeWhile d hd
    · cases h
      exact ⟨[], rfl, .none⟩
  · cases h
    exact ⟨[], rfl, .none⟩

theorem fraction?_complete {text rest ds : List Char} (h : FractionForm text ds)
    (hrest : ∀ c ∈ rest.head?, IsOffsetStart c) : fraction? (text ++ rest) = some (ds, rest) := by
  cases h with
  | none =>
    cases rest with
    | nil => rfl
    | cons c cs =>
      rcases hrest c rfl with rfl | rfl | rfl | rfl <;> simp [fraction?]
  | @some c _ hc hne hds =>
    obtain ⟨htake, hdrop⟩ := takeWhile_append_stop hds (fun c hc => (hrest c hc).isDigit)
    simp [fraction?, hc, htake, hdrop, hne]

theorem time?_sound {cs rest : List Char} {t : TimeFields} (h : time? cs = some (t, rest)) :
    ∃ text, cs = text ++ rest ∧ TimeForm text t := by
  simp only [time?, Option.bind_eq_bind, readNumber?_bind_eq_some_iff] at h
  obtain ⟨hour, hs, cs', rfl, hh, h⟩ := h
  split at h
  · simp only [readNumber?_bind_eq_some_iff] at h
    obtain ⟨m, ms, cs'', rfl, hm, h⟩ := h
    split at h
    · simp only [readNumber?_bind_eq_some_iff] at h
      obtain ⟨s, ss, cs'', rfl, hs', h⟩ := h
      simp only [Option.bind_eq_some_iff, Option.pure_def, Option.some.injEq, Prod.mk.injEq] at h
      obtain ⟨⟨f, rest'⟩, hfraction, rfl, rfl⟩ := h
      obtain ⟨fs, rfl, hf⟩ := fraction?_sound hfraction
      exact ⟨hs ++ ':' :: ms ++ ':' :: ss ++ fs, by simp, .second hh hm hs' hf⟩
    · cases h
      exact ⟨hs ++ ':' :: ms, by simp, .minute hh hm⟩
  · split at h
    · cases h
      exact ⟨hs, rfl, .hour hh⟩
    · next m cs'' hread =>
      obtain ⟨ms, rfl, hm⟩ := readNumber?_eq_some_iff.mp hread
      split at h
      · cases h
        exact ⟨hs ++ ms, by simp, .basicMinute hh hm⟩
      · next s cs'' hread =>
        obtain ⟨ss, rfl, hs'⟩ := readNumber?_eq_some_iff.mp hread
        simp only [Option.bind_eq_some_iff, Option.pure_def, Option.some.injEq,
          Prod.mk.injEq] at h
        obtain ⟨⟨f, rest'⟩, hfraction, rfl, rfl⟩ := h
        obtain ⟨fs, rfl, hf⟩ := fraction?_sound hfraction
        exact ⟨hs ++ ms ++ ss ++ fs, by simp, .basicSecond hh hm hs' hf⟩

theorem FractionForm.isDigit {text ds : List Char} (h : FractionForm text ds) :
    ∀ d ∈ ds, d.isDigit := by
  cases h with
  | none => simp
  | some hc hne hds => exact hds

-- The facts about the colon are for simp, which needs them to pass over a pattern.
theorem time?_complete {text : List Char} {t : TimeFields} (h : TimeForm text t)
    (rest : List Char) (hrest : ∀ c ∈ rest.head?, IsOffsetStart c) :
    time? (text ++ rest) = some (t, rest) := by
  have hcolon : ∀ cs, rest ≠ ':' :: cs := by
    rintro cs rfl
    simpa [IsOffsetStart] using hrest ':' rfl
  have hnone : readNumber? 2 rest = none := readNumber?_eq_none (fun c hc => (hrest c hc).isDigit)
  cases h with
  | hour hh => simp [time?, readNumber?_append hh, hnone]
  | minute hh hm => simp [time?, readNumber?_append hh, readNumber?_append hm]
  | @basicMinute hs ms h m hh hm =>
    have hms : ∀ cs, ms ++ rest ≠ ':' :: cs := fun cs => hm.append_ne_cons (by decide)
    simp [time?, readNumber?_append hh, readNumber?_append hm, hnone]
  | second hh hm hs hf =>
    simp [time?, readNumber?_append hh, readNumber?_append hm, readNumber?_append hs,
      fraction?_complete hf hrest]
  | @basicSecond hs ms ss fs h m s f hh hm hs' hf =>
    have hms : ∀ cs, ms ++ (ss ++ (fs ++ rest)) ≠ ':' :: cs :=
      fun cs => hm.append_ne_cons (by decide)
    simp [time?, readNumber?_append hh, readNumber?_append hm, readNumber?_append hs',
      fraction?_complete hf hrest]

theorem offsetDigits?_sound {cs rest : List Char} {negative : Bool} {o : OffsetFields} {c : Char}
    (hc : IsSign c negative) (h : offsetDigits? negative cs = some (o, rest)) :
    ∃ text, cs = text ++ rest ∧ OffsetForm (c :: text) o := by
  simp only [offsetDigits?, Option.bind_eq_bind, readNumber?_bind_eq_some_iff] at h
  obtain ⟨hours, hs, cs', rfl, hh, h⟩ := h
  split at h
  · simp only [readNumber?_bind_eq_some_iff, Option.pure_def, Option.some.injEq,
      Prod.mk.injEq] at h
    obtain ⟨m, ms, cs'', rfl, hm, rfl, rfl⟩ := h
    exact ⟨hs ++ ':' :: ms, by simp, .minutes hc hh hm⟩
  · split at h
    · next m cs'' hread =>
      cases h
      obtain ⟨ms, rfl, hm⟩ := readNumber?_eq_some_iff.mp hread
      exact ⟨hs ++ ms, by simp, .basicMinutes hc hh hm⟩
    · cases h
      exact ⟨hs, rfl, .hours hc hh⟩

theorem offset?_sound {cs rest : List Char} {o : OffsetFields} (h : offset? cs = some (o, rest)) :
    ∃ text, cs = text ++ rest ∧ OffsetForm text o := by
  unfold offset? at h
  split at h
  · cases h
    exact ⟨['Z'], rfl, .zulu (.inl rfl)⟩
  · cases h
    exact ⟨['z'], rfl, .zulu (.inr rfl)⟩
  · obtain ⟨text, rfl, ho⟩ := offsetDigits?_sound .plus h
    exact ⟨'+' :: text, rfl, ho⟩
  · obtain ⟨text, rfl, ho⟩ := offsetDigits?_sound .minus h
    exact ⟨'-' :: text, rfl, ho⟩
  · cases h

theorem offset?_cons {c : Char} {negative : Bool} (hc : IsSign c negative) (cs : List Char) :
    offset? (c :: cs) = offsetDigits? negative cs := by
  cases hc <;> rfl

theorem offset?_complete {text : List Char} {o : OffsetFields} (h : OffsetForm text o) :
    offset? text = some (o, []) := by
  cases h with
  | zulu hc => rcases hc with rfl | rfl <;> rfl
  | hours hc hh =>
    have hnone : readNumber? 2 [] = none := readNumber?_eq_none (by simp)
    rw [offset?_cons hc]
    simp [offsetDigits?, readNumber?_eq_some hh, hnone]
  | @basicMinutes c negative hs ms h m hc hh hm =>
    have hms : ∀ cs, ms ≠ ':' :: cs := by
      intro cs
      rw [← List.append_nil ms]
      exact hm.append_ne_cons (by decide)
    rw [List.cons_append, offset?_cons hc]
    simp [offsetDigits?, readNumber?_append hh, readNumber?_eq_some hm]
  | minutes hc hh hm =>
    rw [List.cons_append, offset?_cons hc]
    simp [offsetDigits?, readNumber?_append hh, readNumber?_eq_some hm]

end Iso

end TimeMarkup
