import TimeMarkup.Proofs.Display.Remaining
import TimeMarkup.Proofs.Session.Movement

/-!
This module contains what sessions say about an expiry while time does not go back. The main
statement says that the same token is shown up to the expiry, and that it is expired ever after.
-/

namespace TimeMarkup

namespace Clock

/-- The step does not lead back. A jump to where there is no instant does not count. -/
def IsForward (c : Clock) : Step → Prop
  | .advance e => 0 ≤ e.nanos
  | .set i => c.now ≤ i
  | .setMillis m =>
    c.now.nanos ≤ 1000000 * m.toInt ∨ Instant.ofNanos? (1000000 * m.toInt) = none

instance (c : Clock) (step : Step) : Decidable (c.IsForward step) :=
  match step with
  | .advance e => inferInstanceAs (Decidable (0 ≤ e.nanos))
  | .set i => inferInstanceAs (Decidable (c.now ≤ i))
  | .setMillis m =>
    inferInstanceAs (Decidable (c.now.nanos ≤ 1000000 * m.toInt
      ∨ Instant.ofNanos? (1000000 * m.toInt) = none))

def MovesForward (c : Clock) : List Step → Prop
  | [] => True
  | step :: steps => c.IsForward step ∧ (c.step step).MovesForward steps

variable {c : Clock} {t : Timestamp} {i : Instant}

theorem now_le_now_step {step : Step} (h : c.IsForward step) : c.now ≤ (c.step step).now := by
  have hlast : c.now.nanos ≤ Instant.last.nanos := c.now.le_max
  rw [Instant.le_def, now_nanos_step]
  cases step with
  | advance e =>
    have he : 0 ≤ e.nanos := h
    simp only [nanosAfter]
    omega
  | set j => exact h
  | setMillis m =>
    simp only [IsForward, Instant.ofNanos?_eq_none_iff] at h
    simp only [nanosAfter]
    split
    · omega
    · exact Int.le_refl _

theorem now_le_now_run {steps : List Step} (h : c.MovesForward steps) :
    c.now ≤ (c.run steps).now := by
  induction steps generalizing c with
  | nil => exact Int.le_refl _
  | cons step steps ih => exact Int.le_trans (now_le_now_step h.1) (ih h.2)

theorem now_run_of_now_eq_last {steps : List Step} (h : c.MovesForward steps)
    (hlast : c.now = .last) : (c.run steps).now = .last := by
  have hle := now_le_now_run h
  rw [hlast] at hle
  apply Instant.ext
  exact Int.le_antisymm (c.run steps).now.le_max hle

theorem remaining_eq_token_iff (hblank : t.isBlank = false) (h : t.resolve = .ok i) :
    c.remaining (some t) = .ok (i.token .relative) ↔ c.now ≤ i := by
  constructor
  · intro htext
    rw [Instant.token_eq, tokenText_relative] at htext
    exact (exists_eq_token_iff hblank h htext).mp ⟨_, rfl⟩
  · intro hle
    have hnot : ¬ i < c.now := Int.not_lt.mpr hle
    rw [remaining_eq hblank h, if_neg hnot]

end Clock

namespace Session

variable {s : Session} {rs : List Request} {t : Timestamp} {i : Instant}

theorem answer_remaining (hblank : t.isBlank = false) (h : t.resolve = .ok i) :
    s.shared.answer (.remaining (some t))
      = .ok (.text (some (if i < s.shared.now then "Expired" else i.token .relative))) := by
  simp only [Clock.answer, Clock.remaining_eq hblank h]
  rfl

theorem forward_handle {r : Request} (h : s.shared.MovesForward (moves (r :: rs))) :
    s.shared.now ≤ (s.handle r).1.shared.now
      ∧ (s.handle r).1.shared.MovesForward (moves rs) := by
  cases r with
  | move via step =>
    rw [handle_move]
    exact ⟨Clock.now_le_now_step h.1, h.2⟩
  | ask question => exact ⟨Int.le_refl _, h⟩

theorem replies_of_lt_now (hblank : t.isBlank = false) (h : t.resolve = .ok i)
    (hforward : s.shared.MovesForward (moves rs)) (hlt : i < s.shared.now) {k : Nat}
    (hk : rs[k]? = some (.ask (.remaining (some t)))) :
    (s.run rs).2[k]? = some (.ok (.text (some "Expired"))) := by
  induction rs generalizing s k with
  | nil => cases hk
  | cons r rs ih =>
    cases k with
    | zero =>
      cases hk
      have hanswer := answer_remaining (s := s) hblank h
      rw [if_pos hlt] at hanswer
      exact congrArg some hanswer
    | succ k =>
      have ⟨hle, hrest⟩ := forward_handle hforward
      have hlt' : i < (s.handle r).1.shared.now := Int.lt_of_lt_of_le hlt hle
      exact ih hrest hlt' hk

-- The cut lies before the first request that finds the clock past the expiry.
theorem exists_cut (hblank : t.isBlank = false) (h : t.resolve = .ok i)
    (hforward : s.shared.MovesForward (moves rs)) :
    ∃ n : Nat, ∀ k : Nat, rs[k]? = some (.ask (.remaining (some t))) →
      (s.run rs).2[k]?
        = some (.ok (.text (some (if k < n then i.token .relative else "Expired")))) := by
  induction rs generalizing s with
  | nil =>
    exists 0
    intro k hk
    cases hk
  | cons r rs ih =>
    by_cases hlt : i < s.shared.now
    · exists 0
      intro k hk
      exact replies_of_lt_now hblank h hforward hlt hk
    · obtain ⟨n, hn⟩ := ih (forward_handle hforward).2
      exists n + 1
      intro k hk
      cases k with
      | zero =>
        cases hk
        have hanswer := answer_remaining (s := s) hblank h
        rw [if_neg hlt] at hanswer
        exact congrArg some hanswer
      | succ k =>
        simp only [Nat.add_lt_add_iff_right]
        exact hn k hk

/--
While time does not go back, what remains until an expiry is asked for any number of times, between
moves and other questions: up to some request it is the one token, and from then on it is expired.
It is still the token at the expiry itself, and a clock that has reached the last instant stays.
-/
theorem remaining_one_way (hblank : t.isBlank = false) (h : t.resolve = .ok i)
    (hforward : s.shared.MovesForward (moves rs)) :
    (∃ n : Nat, ∀ k : Nat, rs[k]? = some (.ask (.remaining (some t))) →
        (s.run rs).2[k]?
          = some (.ok (.text (some (if k < n then i.token .relative else "Expired")))))
      ∧ i.token .relative ≠ "Expired"
      ∧ (∀ c : Clock, c.remaining (some t) = .ok (i.token .relative) ↔ c.now ≤ i)
      ∧ (s.shared.now = .last → (s.run rs).1.shared.now = .last) := by
  refine ⟨?_, ?_, ?_, ?_⟩
  · exact exists_cut hblank h hforward
  · apply Instant.token_ne_expired
  · intro c
    exact Clock.remaining_eq_token_iff hblank h
  · intro hlast
    rw [shared_run]
    exact Clock.now_run_of_now_eq_last hforward hlast

theorem remaining_one_way_from_noon :
    let t : Timestamp := .seconds 1623762000
    let i : Instant := ⟨1623762000 * 1000000000, by omega, by omega⟩
    let ask : Request := .ask (.remaining (some t))
    let hour : Elapsed := ⟨3600000000000, by omega, by omega⟩
    let nanosecond : Elapsed := ⟨1, by omega, by omega⟩
    let s : Session := ⟨.atNoon⟩
    let rs : List Request :=
      [ask, .move .owner (.advance hour), .move .asker (.setMillis Int64.maxValue), ask,
        .move .owner (.advance nanosecond), ask, .move .asker (.set .last),
        .move .owner (.advance hour), ask]
    t.isBlank = false ∧ t.resolve = .ok i ∧ s.shared.MovesForward (moves rs)
      ∧ (∃ n : Nat, ∀ k : Nat, rs[k]? = some ask →
        (s.run rs).2[k]?
          = some (.ok (.text (some (if k < n then i.token .relative else "Expired")))))
      ∧ (s.run rs).2[3]? = some (.ok (.text (some "<t:1623762000:R>")))
      ∧ (s.run rs).2[5]? = some (.ok (.text (some "Expired"))) := by
  intro t i ask hour nanosecond s rs
  have hblank : t.isBlank = false := rfl
  have hresolve : t.resolve = .ok i := rfl
  have hforward : s.shared.MovesForward (moves rs) := by
    refine ⟨?_, ?_, ?_, ?_, ?_, trivial⟩ <;> decide
  refine ⟨hblank, hresolve, hforward, ?_, ?_, ?_⟩
  · exact (remaining_one_way hblank hresolve hforward).1
  · rfl
  · rfl

end Session

end TimeMarkup
