import TimeMarkup.Display
import TimeMarkup.Proofs.Timestamp.Token

/-!
This module contains the tokens in texts that depend on the current time. The main statement says
that these are the tokens of the timestamp itself, unless its fraction is rounded up to a second.
-/

namespace TimeMarkup

def Timestamp.TokenLeads (t : Timestamp) (text : String) : Prop :=
  ∃ token distance, t.token .dateTime = .ok token ∧ text = token ++ " (" ++ distance ++ ")"

namespace Timestamp

variable {t : Timestamp} {i : Instant}

theorem tokenLeads_iff (h : t.resolve = .ok i) (distance : String) :
    t.TokenLeads (i.token .dateTime ++ " (" ++ distance ++ ")") ↔ t.carriedSecond = 0 := by
  obtain ⟨n, htoken, hinstant⟩ := exists_seconds_of_resolve h
  rw [hinstant]
  constructor
  · rintro ⟨token, distance', heq, htext⟩
    rw [htoken] at heq
    cases heq
    rw [String.append_assoc, String.append_assoc, String.append_assoc, String.append_assoc] at htext
    have := (tokenText_append_inj htext).1
    omega
  · intro hcarry
    rw [hcarry, Int.add_zero]
    exact ⟨_, distance, htoken .dateTime, rfl⟩

theorem relativeToken_eq_ok_iff (h : t.resolve = .ok i) :
    t.relativeToken = .ok (i.token .relative) ↔ t.carriedSecond = 0 := by
  obtain ⟨n, htoken, hinstant⟩ := exists_seconds_of_resolve h
  rw [relativeToken, htoken, hinstant]
  constructor
  · intro heq
    have := (tokenText_inj (Except.ok.inj heq)).1
    omega
  · intro hcarry
    rw [hcarry, Int.add_zero]

end Timestamp

namespace Clock

variable {c : Clock} {t : Timestamp} {i : Instant}

theorem eq_token_of_tokenWithDistance (hblank : t.isBlank = false) (h : t.resolve = .ok i)
    {reference : Option Timestamp} {precision : String} {maxUnits : Int} {text : String}
    (htext : c.tokenWithDistance (some t) reference precision maxUnits = .ok (some text)) :
    ∃ distance, text = i.token .dateTime ++ " (" ++ distance ++ ")" := by
  unfold tokenWithDistance at htext
  rw [Timestamp.filter_not_isBlank hblank] at htext
  simp only [h, bind, Except.bind] at htext
  split at htext
  · cases htext
  · split at htext
    · cases htext
    · cases htext
      exact ⟨_, rfl⟩

theorem eq_token_of_remaining (hblank : t.isBlank = false) (h : t.resolve = .ok i) {text : String}
    (htext : c.remaining (some t) = .ok text) (hexpired : text ≠ "Expired") :
    text = i.token .relative := by
  unfold remaining at htext
  rw [Timestamp.filter_not_isBlank hblank] at htext
  simp only [h, bind, Except.bind] at htext
  split at htext
  · cases htext
    contradiction
  · cases htext
    rfl

/--
A text shows the token of its timestamp unless rounding to nanoseconds makes a second of the
fraction. In that case the token in the text is the one of the second that is carried.
-/
theorem tokens_agree_iff (hblank : t.isBlank = false) (h : t.resolve = .ok i) :
    (∀ (c : Clock) reference precision maxUnits text,
        c.tokenWithDistance (some t) reference precision maxUnits = .ok (some text) →
          (t.TokenLeads text ↔ t.carriedSecond = 0))
      ∧ (∀ (c : Clock) text, c.remaining (some t) = .ok text → text ≠ "Expired" →
          (t.relativeToken = .ok text ↔ t.carriedSecond = 0))
      ∧ t.carriedSecond.natAbs ≤ 1
      ∧ ∃ n, (∀ style, t.token style = .ok (tokenText n style))
        ∧ ∀ style, i.token style = tokenText (n + t.carriedSecond) style := by
  refine ⟨?_, ?_, ?_, ?_⟩
  · intro c reference precision maxUnits text htext
    obtain ⟨distance, rfl⟩ := eq_token_of_tokenWithDistance hblank h htext
    apply Timestamp.tokenLeads_iff h
  · intro c text htext hexpired
    rw [eq_token_of_remaining hblank h htext hexpired]
    exact Timestamp.relativeToken_eq_ok_iff h
  · apply Timestamp.carriedSecond_natAbs_le
  · exact Timestamp.exists_seconds_of_resolve h

theorem tokens_agree_before_epoch :
    let t : Timestamp := .epoch (-0.5)
    let i : Instant := ⟨-500000000, by omega, by omega⟩
    t.isBlank = false ∧ t.resolve = .ok i ∧ t.carriedSecond = 0
      ∧ ∀ reference precision maxUnits text,
        atEpoch.tokenWithDistance (some t) reference precision maxUnits = .ok (some text) →
          t.TokenLeads text := by
  intro t i
  have hblank : t.isBlank = false := rfl
  have hresolve : t.resolve = .ok i := rfl
  have hcarry : t.carriedSecond = 0 := rfl
  refine ⟨hblank, hresolve, hcarry, ?_⟩
  intro reference precision maxUnits text htext
  exact ((tokens_agree_iff hblank hresolve).1 atEpoch reference precision maxUnits text htext).mpr
    hcarry

/-- A tenth of a nanosecond before the first second, which the texts show and the tokens do not. -/
theorem tokens_apart_before_second :
    let t : Timestamp := .epoch 0.9999999999
    t.isBlank = false ∧ t.resolve = .ok ⟨1000000000, by omega, by omega⟩
      ∧ t.token .dateTime = .ok "<t:0:f>" ∧ t.relativeToken = .ok "<t:0:R>"
      ∧ atEpoch.tokenWithDistance (some t) (some (.seconds 0)) "seconds" 2
        = .ok (some "<t:1:f> (1 second)")
      ∧ ¬ t.TokenLeads "<t:1:f> (1 second)"
      ∧ atEpoch.remaining (some t) = .ok "<t:1:R>" := by
  intro t
  have hresolve : t.resolve = .ok ⟨1000000000, by omega, by omega⟩ := rfl
  have hcarry : t.carriedSecond = 1 := rfl
  refine ⟨rfl, hresolve, rfl, rfl, ?_, ?_, rfl⟩
  · with_unfolding_all rfl
  · have hiff := Timestamp.tokenLeads_iff hresolve "1 second"
    rw [hcarry] at hiff
    exact fun hleads => absurd (hiff.mp hleads) (by decide)

end Clock

end TimeMarkup
