import TimeMarkup.Proofs.Instant.Shift
import TimeMarkup.Span.Between

/-!
This module contains the correctness of the search for whole months. The main statement says that
the search finds the last month count that does not lead beyond the other instant.
-/

namespace TimeMarkup

namespace Span

def direction (start stop : Instant) : Int :=
  if stop < start then -1 else 1

/--
From `start`, `n` months lead to `anchor`, which lies on the way to `stop`. One more month leads
beyond `stop`, whether or not what it leads to is in the range of instants.
-/
structure IsFarthest (start stop : Instant) (n : Int) (anchor : Instant) : Prop where
  toward : 0 ≤ direction start stop * n
  reached : start.addMonths? n = some anchor
  not_beyond : 0 ≤ direction start stop * (stop.nanos - anchor.nanos)
  beyond : direction start stop
    * (stop.nanos - start.nanosAfterMonths (n + direction start stop)) < 0

theorem direction_eq (start stop : Instant) :
    (direction start stop = -1 ∧ stop.nanos < start.nanos)
      ∨ (direction start stop = 1 ∧ start.nanos ≤ stop.nanos) := by
  unfold direction
  simp only [Instant.lt_def]
  split <;> omega

theorem direction_eq_one_or (start stop : Instant) :
    direction start stop = 1 ∨ direction start stop = -1 := by
  unfold direction
  split
  · exact Or.inr rfl
  · exact Or.inl rfl

theorem signed_eq (start stop : Instant) (n : Nat) :
    wholeMonths.signed start stop n = direction start stop * n := by
  unfold wholeMonths.signed direction
  split <;> omega

theorem isBeyond_iff (start stop i : Instant) :
    isBeyond start stop i = true ↔ direction start stop * (stop.nanos - i.nanos) < 0 := by
  unfold isBeyond direction
  split
  · simp only [decide_eq_true_eq, Instant.lt_def]
    omega
  · simp only [decide_eq_true_eq, Instant.lt_def]
    omega

theorem isFarthest_zero {start stop : Instant}
    (h : direction start stop
      * (stop.nanos - start.nanosAfterMonths (direction start stop)) < 0) :
    IsFarthest start stop 0 start where
  toward := by omega
  reached := by apply Instant.addMonths?_zero
  not_beyond := by
    rcases direction_eq start stop with ⟨hd, hlt⟩ | ⟨hd, hle⟩
    · rw [hd]
      omega
    · rw [hd]
      omega
  beyond := by simpa using h

-- The counts tried lie between zero and the distance of the two months, where no shift can fail.
-- The induction hands down that one month more than the next count to try leads beyond `stop`.
theorem wholeMonths.go_isFarthest (start stop : Instant) (n : Nat)
    (hrange : ∀ k : Nat, k ≤ n → (start.addMonths? (direction start stop * k)).isSome)
    (h : direction start stop
      * (stop.nanos
        - start.nanosAfterMonths (direction start stop * n + direction start stop)) < 0) :
    IsFarthest start stop (wholeMonths.go start stop n).1 (wholeMonths.go start stop n).2 := by
  induction n with
  | zero =>
    apply isFarthest_zero
    simpa using h
  | succ n ih =>
    have hsome := hrange (n + 1) (by omega)
    obtain ⟨i, hi⟩ := Option.isSome_iff_exists.mp hsome
    have hnanos := Instant.addMonths?_eq_some_iff.mp hi
    have hstep : direction start stop * (n : Int) + direction start stop
        = direction start stop * ((n + 1 : Nat) : Int) := by
      rcases direction_eq start stop with ⟨hd, _⟩ | ⟨hd, _⟩ <;> rw [hd] <;> omega
    unfold wholeMonths.go
    rw [signed_eq]
    rw [hi]
    dsimp only
    split
    · next hbeyond =>
      apply ih
      · intro k hk
        apply hrange
        omega
      · rw [isBeyond_iff] at hbeyond
        rw [hstep]
        rw [← hnanos]
        exact hbeyond
    · next hbeyond =>
      rw [isBeyond_iff] at hbeyond
      constructor
      · rcases direction_eq start stop with ⟨hd, _⟩ | ⟨hd, _⟩ <;> rw [hd] <;> omega
      · exact hi
      · dsimp only
        omega
      · exact h

theorem eq_direction_mul_natAbs {start stop : Instant} {n : Int}
    (hn : 0 ≤ direction start stop * n) : n = direction start stop * (n.natAbs : Int) := by
  rcases direction_eq_one_or start stop with hd | hd <;> rw [hd] at hn ⊢ <;> omega

theorem distance_toward (start stop : Instant) :
    0 ≤ direction start stop * (stop.date.index - start.date.index) := by
  rcases direction_eq start stop with ⟨hd, hlt⟩ | ⟨hd, hle⟩
  · have : stop.date.index ≤ start.date.index := Instant.index_le_of_le (Int.le_of_lt hlt)
    rw [hd]
    omega
  · have : start.date.index ≤ stop.date.index := Instant.index_le_of_le hle
    rw [hd]
    omega

theorem addMonths?_isSome_of_toward {start stop : Instant} {n : Int}
    (hn : 0 ≤ direction start stop * n)
    (hle : direction start stop * n
      ≤ direction start stop * (stop.date.index - start.date.index)) :
    (start.addMonths? n).isSome := by
  have hstart := Instant.index_bounds start
  have hstop := Instant.index_bounds stop
  rw [Instant.addMonths?_isSome_iff]
  rcases direction_eq start stop with ⟨hd, _⟩ | ⟨hd, _⟩ <;> rw [hd] at hn hle <;> omega

theorem addMonths?_isSome_of_le_distance (start stop : Instant) (k : Nat)
    (h : k ≤ (stop.date.index - start.date.index).natAbs) :
    (start.addMonths? (direction start stop * k)).isSome := by
  have hdistance := distance_toward start stop
  apply addMonths?_isSome_of_toward
  · rcases direction_eq_one_or start stop with hd | hd <;> rw [hd] <;> omega
  · rcases direction_eq_one_or start stop with hd | hd <;> rw [hd] at hdistance ⊢ <;> omega

theorem distance_add_one_beyond (start stop : Instant) :
    direction start stop
      * (stop.nanos
        - start.nanosAfterMonths
          (direction start stop * (stop.date.index - start.date.index).natAbs
            + direction start stop)) < 0 := by
  rw [← eq_direction_mul_natAbs (distance_toward start stop)]
  rcases direction_eq start stop with ⟨hd, _⟩ | ⟨hd, _⟩
  · rw [hd]
    have := Instant.nanosAfterMonths_lt_of_index_lt (i := start) (j := stop)
      (n := stop.date.index - start.date.index + -1) (by omega)
    omega
  · rw [hd]
    have := Instant.lt_nanosAfterMonths_of_lt_index (i := start) (j := stop)
      (n := stop.date.index - start.date.index + 1) (by omega)
    omega

theorem wholeMonths_isFarthest (start stop : Instant) :
    IsFarthest start stop (wholeMonths start stop).1 (wholeMonths start stop).2 := by
  unfold wholeMonths
  apply wholeMonths.go_isFarthest
  · apply addMonths?_isSome_of_le_distance
  · apply distance_add_one_beyond

-- Of two counts the larger one would need a month that leads beyond the nearer end.
theorem IsFarthest.le_of_le {start e₁ e₂ a₁ a₂ : Instant} {n₁ n₂ : Int}
    (h₁ : IsFarthest start e₁ n₁ a₁) (h₂ : IsFarthest start e₂ n₂ a₂) (hle : e₁ ≤ e₂) :
    n₁ ≤ n₂ := by
  have ⟨htoward₁, hreached₁, hrest₁, hbeyond₁⟩ := h₁
  have ⟨htoward₂, hreached₂, hrest₂, hbeyond₂⟩ := h₂
  rw [Instant.addMonths?_eq_some_iff] at hreached₁ hreached₂
  rw [Instant.le_def] at hle
  apply Int.not_lt.mp
  intro hlt
  rcases direction_eq start e₁ with ⟨hd₁, _⟩ | ⟨hd₁, _⟩
  · rcases direction_eq start e₂ with ⟨hd₂, _⟩ | ⟨hd₂, _⟩
    · have := start.nanosAfterMonths_le (m := n₂) (n := n₁ + -1) (by omega)
      rw [hd₁] at hbeyond₁
      rw [hd₂] at hrest₂
      omega
    · rw [hd₁] at htoward₁
      rw [hd₂] at htoward₂
      omega
  · rcases direction_eq start e₂ with ⟨hd₂, _⟩ | ⟨hd₂, _⟩
    · omega
    · have := start.nanosAfterMonths_le (m := n₂ + 1) (n := n₁) (by omega)
      rw [hd₁] at hrest₁
      rw [hd₂] at hbeyond₂
      omega

theorem IsFarthest.wholeMonths_eq {start stop anchor : Instant} {n : Int}
    (h : IsFarthest start stop n anchor) : wholeMonths start stop = (n, anchor) := by
  have hfar := wholeMonths_isFarthest start stop
  have hcount : (wholeMonths start stop).1 = n := by
    apply Int.le_antisymm
    · exact hfar.le_of_le h (Int.le_refl _)
    · exact h.le_of_le hfar (Int.le_refl _)
  have hreached := hfar.reached
  rw [hcount] at hreached
  rw [h.reached] at hreached
  have hanchor := Option.some.inj hreached
  rw [← hcount, hanchor]

end Span

end TimeMarkup
