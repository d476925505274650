import TimeMarkup.Proofs.Span.WholeMonths

/-!
This module contains the search for whole months as a loop that nothing bounds: try a month count,
and go one month back toward the start as long as it leads beyond the other instant. The main
statement says that the loop ends after at most one step back, without ever leaving the range of
instants, and that `wholeMonths` is its result.
-/

namespace TimeMarkup

namespace Span

inductive Outcome where
  | outOfRange
  | beyond (next : Int)
  | found (anchor : Instant)
deriving DecidableEq

def tryMonths (start stop : Instant) (n : Int) : Outcome :=
  match start.addMonths? n with
  | none => .outOfRange
  | some i => if isBeyond start stop i then .beyond (n - direction start stop) else .found i

/-- After `k` steps back the loop tries `n` months. -/
inductive Tries (start stop : Instant) : Nat → Int → Prop where
  | first : Tries start stop 0 (stop.date.index - start.date.index)
  | back {k n m} (h : Tries start stop k n) (hbeyond : tryMonths start stop n = .beyond m) :
    Tries start stop (k + 1) m

variable {start stop anchor : Instant} {k : Nat} {n m : Int}

theorem isBeyond_self (start stop : Instant) : isBeyond start stop start = false := by
  rw [Bool.eq_false_iff]
  rw [ne_eq]
  rw [isBeyond_iff]
  rcases direction_eq start stop with ⟨hd, hlt⟩ | ⟨hd, hle⟩
  · rw [hd]
    omega
  · rw [hd]
    omega

theorem eq_sub_direction_of_beyond (h : tryMonths start stop n = .beyond m) :
    m = n - direction start stop := by
  unfold tryMonths at h
  split at h
  · cases h
  · split at h
    · exact (Outcome.beyond.inj h).symm
    · cases h

theorem tryMonths_eq_found_iff :
    tryMonths start stop n = .found anchor
      ↔ start.addMonths? n = some anchor ∧ isBeyond start stop anchor = false := by
  unfold tryMonths
  split
  · next hnone =>
    rw [hnone]
    simp
  · next i hsome =>
    rw [hsome]
    rw [Option.some.injEq]
    split
    · next hbeyond =>
      constructor
      · intro h
        cases h
      · rintro ⟨rfl, hnot⟩
        rw [hnot] at hbeyond
        cases hbeyond
    · next hbeyond =>
      rw [Outcome.found.injEq]
      constructor
      · rintro rfl
        exact ⟨rfl, Bool.eq_false_iff.mpr hbeyond⟩
      · exact fun h => h.1

theorem tryMonths_zero (start stop : Instant) : tryMonths start stop 0 = .found start := by
  rw [tryMonths_eq_found_iff]
  constructor
  · apply Instant.addMonths?_zero
  · apply isBeyond_self

-- The month reached lies before the month of `stop`, so the day and the time do not matter.
theorem exists_found_of_nearer (hn : 0 ≤ direction start stop * n)
    (hlt : direction start stop * n
      < direction start stop * (stop.date.index - start.date.index)) :
    ∃ anchor, tryMonths start stop n = .found anchor := by
  have hsome := addMonths?_isSome_of_toward hn (Int.le_of_lt hlt)
  obtain ⟨i, hi⟩ := Option.isSome_iff_exists.mp hsome
  have hnanos := Instant.addMonths?_eq_some_iff.mp hi
  exists i
  rw [tryMonths_eq_found_iff]
  refine ⟨hi, ?_⟩
  rw [Bool.eq_false_iff]
  rw [ne_eq]
  rw [isBeyond_iff]
  rw [hnanos]
  rcases direction_eq start stop with ⟨hd, _⟩ | ⟨hd, _⟩
  · rw [hd] at hlt ⊢
    have := Instant.lt_nanosAfterMonths_of_lt_index (i := start) (j := stop) (n := n) (by omega)
    omega
  · rw [hd] at hlt ⊢
    have := Instant.nanosAfterMonths_lt_of_index_lt (i := start) (j := stop) (n := n) (by omega)
    omega

theorem toward_of_beyond (hn : 0 ≤ direction start stop * n)
    (hbeyond : tryMonths start stop n = .beyond m) :
    0 ≤ direction start stop * m
      ∧ direction start stop * m < direction start stop * n := by
  have hne : n ≠ 0 := by
    rintro rfl
    rw [tryMonths_zero] at hbeyond
    cases hbeyond
  rw [eq_sub_direction_of_beyond hbeyond]
  rcases direction_eq_one_or start stop with hd | hd <;> rw [hd] at hn ⊢ <;> omega

namespace Tries

-- One step back from the month of `stop` ends the search, so there is no second one.
theorem eq_first_or_found (h : Tries start stop k n) :
    (k = 0 ∧ n = stop.date.index - start.date.index)
      ∨ (k = 1 ∧ 0 ≤ direction start stop * n
        ∧ ∃ anchor, tryMonths start stop n = .found anchor) := by
  induction h with
  | first => exact Or.inl ⟨rfl, rfl⟩
  | back h hbeyond ih =>
    rcases ih with ⟨rfl, rfl⟩ | ⟨_, _, anchor, hfound⟩
    · have ⟨htoward, hnearer⟩ := toward_of_beyond (distance_toward start stop) hbeyond
      exact Or.inr ⟨rfl, htoward, exists_found_of_nearer htoward hnearer⟩
    · rw [hfound] at hbeyond
      cases hbeyond

theorem le_one (h : Tries start stop k n) : k ≤ 1 := by
  rcases h.eq_first_or_found with ⟨rfl, _⟩ | ⟨rfl, _⟩ <;> decide

theorem toward (h : Tries start stop k n) : 0 ≤ direction start stop * n := by
  rcases h.eq_first_or_found with ⟨_, rfl⟩ | ⟨_, htoward, _⟩
  · exact distance_toward start stop
  · exact htoward

theorem addMonths?_isSome (h : Tries start stop k n) : (start.addMonths? n).isSome := by
  rcases h.eq_first_or_found with ⟨_, rfl⟩ | ⟨_, _, anchor, hfound⟩
  · exact addMonths?_isSome_of_toward (distance_toward start stop) (Int.le_refl _)
  · rw [(tryMonths_eq_found_iff.mp hfound).1]
    rfl

theorem ne_outOfRange (h : Tries start stop k n) : tryMonths start stop n ≠ .outOfRange := by
  intro hout
  have hsome := h.addMonths?_isSome
  unfold tryMonths at hout
  split at hout
  · next hnone =>
    rw [hnone] at hsome
    cases hsome
  · split at hout <;> cases hout

end Tries

namespace wholeMonths

theorem go_add_one (hn : n = direction start stop * ((k + 1 : Nat) : Int)) :
    go start stop (k + 1)
      = match tryMonths start stop n with
        | .outOfRange => (0, start)
        | .beyond _ => go start stop k
        | .found anchor => (n, anchor) := by
  rw [go]
  rw [signed_eq]
  rw [← hn]
  unfold tryMonths
  cases start.addMonths? n with
  | none => rfl
  | some i =>
    dsimp only
    split
    · rfl
    · rfl

theorem go_of_beyond (hn : 0 ≤ direction start stop * n)
    (hbeyond : tryMonths start stop n = .beyond m) :
    go start stop n.natAbs = go start stop m.natAbs := by
  have ⟨hm, hnearer⟩ := toward_of_beyond hn hbeyond
  have hstep : n.natAbs = m.natAbs + 1 := by
    rw [eq_sub_direction_of_beyond hbeyond] at hm hnearer ⊢
    rcases direction_eq_one_or start stop with hd | hd <;> rw [hd] at hn hm ⊢ <;> omega
  have hcount := eq_direction_mul_natAbs hn
  rw [hstep] at hcount
  rw [hstep]
  rw [go_add_one hcount]
  rw [hbeyond]

theorem go_of_found (hn : 0 ≤ direction start stop * n)
    (hfound : tryMonths start stop n = .found anchor) :
    go start stop n.natAbs = (n, anchor) := by
  have hcount := eq_direction_mul_natAbs hn
  cases habs : n.natAbs with
  | zero =>
    obtain rfl : n = 0 := Int.natAbs_eq_zero.mp habs
    rw [tryMonths_zero] at hfound
    cases hfound
    rfl
  | succ k =>
    rw [habs] at hcount
    rw [go_add_one hcount]
    rw [hfound]

end wholeMonths

-- The recursion of `wholeMonths` runs through the counts of the loop, one step back at a time.
theorem Tries.go_eq (h : Tries start stop k n) :
    wholeMonths.go start stop n.natAbs = wholeMonths start stop := by
  induction h with
  | first => rfl
  | back h hbeyond ih =>
    rw [← wholeMonths.go_of_beyond h.toward hbeyond]
    exact ih

theorem exists_tries_found (start stop : Instant) :
    ∃ k n anchor, Tries start stop k n ∧ tryMonths start stop n = .found anchor := by
  have hfirst : Tries start stop 0 (stop.date.index - start.date.index) := .first
  cases houtcome : tryMonths start stop (stop.date.index - start.date.index) with
  | outOfRange => exact absurd houtcome hfirst.ne_outOfRange
  | beyond m =>
    have hback : Tries start stop 1 m := hfirst.back houtcome
    rcases hback.eq_first_or_found with ⟨hk, _⟩ | ⟨_, _, anchor, hfound⟩
    · cases hk
    · exact ⟨1, m, anchor, hback, hfound⟩
  | found anchor => exact ⟨0, _, anchor, hfirst, houtcome⟩

/--
Every count that is tried leads to an instant, even where the first or the last month is reached. At
most one of them leads beyond the other instant, and none lies on the other side of zero. The loop
comes to an end, which is the result of `wholeMonths`.
-/
theorem search_ends (start stop : Instant) :
    (∀ k n, Tries start stop k n →
        k ≤ 1
          ∧ (start.addMonths? n).isSome ∧ tryMonths start stop n ≠ .outOfRange
          ∧ (start ≤ stop → 0 ≤ n) ∧ (stop < start → n ≤ 0))
      ∧ ∃ k n anchor, Tries start stop k n ∧ tryMonths start stop n = .found anchor
        ∧ wholeMonths start stop = (n, anchor) := by
  constructor
  · intro k n h
    have htoward := h.toward
    refine ⟨h.le_one, h.addMonths?_isSome, h.ne_outOfRange, ?_, ?_⟩
    · intro hle
      rw [Instant.le_def] at hle
      rcases direction_eq start stop with ⟨_, hlt⟩ | ⟨hd, _⟩
      · omega
      · rw [hd] at htoward
        omega
    · intro hlt
      rw [Instant.lt_def] at hlt
      rcases direction_eq start stop with ⟨hd, _⟩ | ⟨_, hle⟩
      · rw [hd] at htoward
        omega
      · omega
  · obtain ⟨k, n, anchor, htries, hfound⟩ := exists_tries_found start stop
    refine ⟨k, n, anchor, htries, hfound, ?_⟩
    rw [← htries.go_eq]
    exact wholeMonths.go_of_found htries.toward hfound

/-- The first count leads to the last day of all, and one month less to the end of November. -/
theorem search_ends_in_last_month :
    let start : Instant := ⟨1612137599 * 1000000000, by omega, by omega⟩
    let stop : Instant := ⟨8210264284799 * 1000000000, by omega, by omega⟩
    tryMonths start stop 3121463 = .beyond 3121462
      ∧ Tries start stop 1 3121462
      ∧ (start.addMonths? 3121462).isSome ∧ (start ≤ stop → (0 : Int) ≤ 3121462)
      ∧ ∃ k n anchor, Tries start stop k n ∧ tryMonths start stop n = .found anchor
        ∧ wholeMonths start stop = (n, anchor) := by
  intro start stop
  have hbeyond : tryMonths start stop 3121463 = .beyond 3121462 := by decide +kernel
  have hdistance : stop.date.index - start.date.index = 3121463 := by decide +kernel
  have hfirst : Tries start stop 0 (stop.date.index - start.date.index) := .first
  rw [hdistance] at hfirst
  have hback : Tries start stop 1 3121462 := hfirst.back hbeyond
  have ⟨htried, hend⟩ := search_ends start stop
  have ⟨_, hsome, _, hforward, _⟩ := htried 1 3121462 hback
  exact ⟨hbeyond, hback, hsome, hforward, hend⟩

end Span

end TimeMarkup
