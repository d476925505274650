import TimeMarkup.Session

/-!
This module contains the time that a session shows. The main statement says that a run of requests
moves it like an integer that stops at the ends of the range of instants, whatever handle a move
goes through and whatever is asked in between.
-/

namespace TimeMarkup

namespace Instant

theorem ofNanos?_eq_none_iff {n : Int} :
    ofNanos? n = none ↔ n < first.nanos ∨ last.nanos < n := by
  unfold ofNanos? first last
  split
  · simp only [reduceCtorEq, false_iff]
    omega
  · simp only [true_iff]
    omega

-- The sum leaves the range on the side to which `e` points, since `i` itself lies in the range.
theorem nanos_addClamped (i : Instant) (e : Elapsed) :
    (i.addClamped e).nanos = max first.nanos (min (i.nanos + e.nanos) last.nanos) := by
  have hlow : first.nanos ≤ i.nanos := i.min_le
  have hhigh : i.nanos ≤ last.nanos := i.le_max
  unfold addClamped add?
  split
  · next j hj =>
    have hlow' : first.nanos ≤ j.nanos := j.min_le
    have hhigh' : j.nanos ≤ last.nanos := j.le_max
    rw [ofNanos?_eq_some_iff] at hj
    omega
  · next hnone =>
    rw [ofNanos?_eq_none_iff] at hnone
    split
    · omega
    · omega

end Instant

namespace Clock

/-- What a step makes of `n` nanoseconds since the epoch, in plain integers. -/
def nanosAfter (n : Int) : Step → Int
  | .advance e => max Instant.first.nanos (min (n + e.nanos) Instant.last.nanos)
  | .set i => i.nanos
  | .setMillis m =>
    if Instant.first.nanos ≤ 1000000 * m.toInt ∧ 1000000 * m.toInt ≤ Instant.last.nanos then
      1000000 * m.toInt
    else
      n

theorem now_nanos_step (c : Clock) (step : Step) :
    (c.step step).now.nanos = nanosAfter c.now.nanos step := by
  cases step with
  | advance e => exact Instant.nanos_addClamped c.now e
  | set i => rfl
  | setMillis m =>
    simp only [Clock.step, nanosAfter]
    split
    · next i hi =>
      have hlow : Instant.first.nanos ≤ i.nanos := i.min_le
      have hhigh : i.nanos ≤ Instant.last.nanos := i.le_max
      rw [Instant.ofNanos?_eq_some_iff] at hi
      rw [if_pos (by omega)]
      exact hi
    · next hnone =>
      rw [Instant.ofNanos?_eq_none_iff] at hnone
      rw [if_neg (by omega)]

theorem now_nanos_run (c : Clock) (steps : List Step) :
    (c.run steps).now.nanos = steps.foldl nanosAfter c.now.nanos := by
  induction steps generalizing c with
  | nil => rfl
  | cons step steps ih =>
    rw [List.foldl_cons]
    rw [← now_nanos_step]
    exact ih (c.step step)

theorem millis_bounds (c : Clock) :
    1000000 * c.millis ≤ c.now.nanos ∧ c.now.nanos < 1000000 * (c.millis + 1) := by
  unfold millis
  omega

-- A nanosecond before the epoch lies in the millisecond before it.
example : (⟨⟨-1, by omega, by omega⟩⟩ : Clock).millis = -1 := by decide

theorem millis_step_setMillis (c : Clock) (m : Amount) :
    (c.step (.setMillis m)).millis
      = if Instant.first.nanos ≤ 1000000 * m.toInt
          ∧ 1000000 * m.toInt ≤ Instant.last.nanos then m.toInt else c.millis := by
  unfold millis
  rw [now_nanos_step]
  simp only [nanosAfter]
  split
  · omega
  · rfl

end Clock

namespace Session

def moves : List Request → List Clock.Step
  | [] => []
  | .move _ step :: rs => step :: moves rs
  | .ask _ :: rs => moves rs

theorem clock_eq (s : Session) (h : Handle) : s.clock h = s.shared := by
  cases h <;> rfl

theorem handle_move (s : Session) (via : Handle) (step : Clock.Step) :
    s.handle (.move via step) = (⟨s.shared.step step⟩, .ok .done) := by
  simp only [handle, clock_eq]

theorem shared_run (s : Session) (rs : List Request) :
    (s.run rs).1.shared = s.shared.run (moves rs) := by
  induction rs generalizing s with
  | nil => rfl
  | cons r rs ih =>
    have hrun : (s.run (r :: rs)).1 = ((s.handle r).1.run rs).1 := rfl
    rw [hrun, ih]
    cases r with
    | move via step =>
      rw [handle_move]
      rfl
    | ask question => rfl

theorem moves_append (rs rs' : List Request) : moves (rs ++ rs') = moves rs ++ moves rs' := by
  induction rs with
  | nil => rfl
  | cons r rs ih =>
    cases r with
    | move via step => exact congrArg (step :: ·) ih
    | ask question => exact ih

theorem shared_run_append_move (s : Session) (rs : List Request) (via : Handle)
    (step : Clock.Step) :
    (s.run (rs ++ [.move via step])).1.shared = (s.run rs).1.shared.step step := by
  rw [shared_run, moves_append, shared_run]
  exact List.foldl_append

/--
Through both handles, a session shows the integer that the moves make of its start. That integer is
an instant throughout. The milliseconds are rounded down, and are the ones jumped to right after a
jump to where there is an instant.
-/
theorem run_simulates (s : Session) (rs : List Request) :
    let nanos := (moves rs).foldl Clock.nanosAfter s.shared.now.nanos
    (Instant.first.nanos ≤ nanos ∧ nanos ≤ Instant.last.nanos)
      ∧ ∀ h : Handle,
        ((s.run rs).1.clock h).now.nanos = nanos
        ∧ (1000000 * ((s.run rs).1.clock h).millis ≤ nanos
          ∧ nanos < 1000000 * (((s.run rs).1.clock h).millis + 1))
        ∧ ∀ (via : Handle) (m : Amount),
          ((s.run (rs ++ [.move via (.setMillis m)])).1.clock h).millis
            = if Instant.first.nanos ≤ 1000000 * m.toInt
                ∧ 1000000 * m.toInt ≤ Instant.last.nanos then m.toInt
              else ((s.run rs).1.clock h).millis := by
  have hnow : (s.run rs).1.shared.now.nanos
      = (moves rs).foldl Clock.nanosAfter s.shared.now.nanos := by
    rw [shared_run]
    exact Clock.now_nanos_run s.shared (moves rs)
  rw [← hnow]
  refine ⟨⟨(s.run rs).1.shared.now.min_le, (s.run rs).1.shared.now.le_max⟩, ?_⟩
  intro h
  refine ⟨?_, ?_, ?_⟩
  · rw [clock_eq]
  · rw [clock_eq]
    apply Clock.millis_bounds
  · intro via m
    rw [clock_eq, clock_eq, shared_run_append_move]
    apply Clock.millis_step_setMillis

end Session

end TimeMarkup
