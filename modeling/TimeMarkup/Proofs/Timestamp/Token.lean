import TimeMarkup.Proofs.Binary64.Rounding
import TimeMarkup.Proofs.Text.Digits
import TimeMarkup.Timestamp.Token

/-!
This module contains the seconds that tokens show. The main statements say that a token determines
its seconds and its style, and how far the token for a timestamp and the one for the instant it
stands for lie apart.
-/

namespace TimeMarkup

namespace Style

theorem ofText_code (style : Style) : ofText style.code.toString = .ok style := by
  cases style <;> rfl

theorem code_inj {style style' : Style} (h : style.code = style'.code) : style = style' := by
  have hread := ofText_code style
  rw [h, ofText_code] at hread
  exact (Except.ok.inj hread).symm

end Style

theorem tokenText_append_inj {m n : Int} {style style' : Style} {rest rest' : String}
    (h : tokenText m style ++ rest = tokenText n style' ++ rest') : m = n ∧ style = style' := by
  have h := congrArg String.toList h
  simp only [tokenText, String.toList_append, List.append_assoc] at h
  obtain ⟨hnumber, hrest⟩ := decimal_append_inj (by simp) (by simp) (List.append_cancel_left h)
  have hletter : style.code = style'.code := by
    have hcons := List.append_cancel_left hrest
    simp only [Char.toString, String.toList_singleton, List.cons_append, List.cons.injEq] at hcons
    exact hcons.1
  exact ⟨hnumber, Style.code_inj hletter⟩

theorem tokenText_inj {m n : Int} {style style' : Style}
    (h : tokenText m style = tokenText n style') : m = n ∧ style = style' :=
  tokenText_append_inj (congrArg (· ++ "") h)

theorem tokenText_eq_append (n : Int) (style : Style) :
    tokenText n style = "<t:" ++ decimal n ++ (":" ++ (style.code.toString ++ ">")) := by
  unfold tokenText
  rw [String.append_assoc]
  rw [String.append_assoc]

theorem tokenText_relative (n : Int) : tokenText n .relative = "<t:" ++ decimal n ++ ":R>" :=
  tokenText_eq_append n .relative

theorem Instant.token_eq (i : Instant) (style : Style) :
    i.token style = tokenText (i.nanos.tdiv nanosPerSecond) style := by
  simp [token, Elapsed.seconds, elapsedTo, epoch]

theorem Instant.token_dateTime (i : Instant) :
    i.token .dateTime = "<t:" ++ decimal (i.nanos.tdiv 1000000000) ++ ":f>" := by
  rw [token_eq]
  exact tokenText_eq_append _ .dateTime

namespace Binary64

theorem signed_mul_add_tdiv (negative : Bool) (whole nanos : Nat) :
    (nanosPerSecond * signed negative whole + signed negative nanos).tdiv nanosPerSecond
      = signed negative whole + (signed negative nanos).tdiv nanosPerSecond := by
  unfold nanosPerSecond
  cases negative with
  | false =>
    simp only [signed, Bool.false_eq_true, if_false]
    rw [Int.tdiv_eq_ediv_of_nonneg (by omega), Int.tdiv_eq_ediv_of_nonneg (by omega)]
    omega
  | true =>
    have hsum : (1000000000 * -(whole : Int) + -(nanos : Int)) = -(1000000000 * whole + nanos) := by
      omega
    simp only [signed, if_true]
    rw [hsum, Int.neg_tdiv, Int.neg_tdiv]
    rw [Int.tdiv_eq_ediv_of_nonneg (by omega), Int.tdiv_eq_ediv_of_nonneg (by omega)]
    omega

theorem fractionNanos_natAbs_le (x : Binary64) : x.fractionNanos.natAbs ≤ 1000000000 := by
  cases x with
  | nan => exact Nat.zero_le _
  | infinite negative => exact Nat.zero_le _
  | finite negative significand exponent =>
    have hle := billionths_le significand exponent
    cases negative <;> simp only [fractionNanos, signed] <;> omega

theorem seconds_add_fractionNanos {x : Binary64} {n : Amount} (h : x.wholeSeconds = .ok n) :
    (nanosPerSecond * n.toInt + x.fractionNanos).tdiv nanosPerSecond
      = n.toInt + x.fractionNanos.tdiv nanosPerSecond := by
  cases x with
  | nan => cases h
  | infinite negative => cases h
  | finite negative significand exponent =>
    simp only [wholeSeconds] at h
    split at h
    · next m hm =>
      cases h
      rw [Amount.ofInt?_eq_some_iff] at hm
      rw [hm]
      apply signed_mul_add_tdiv
    · cases h

end Binary64

namespace Instant

theorem nanos_of_ofSeconds {n : Amount} {i : Instant} (h : ofSeconds n = .ok i) :
    i.nanos = nanosPerSecond * n.toInt := by
  unfold ofSeconds at h
  split at h
  · next j hj =>
    cases h
    exact ofNanos?_eq_some_iff.mp hj
  · cases h

theorem exists_wholeSeconds_of_ofEpoch {x : Binary64} {i : Instant} (h : ofEpoch x = .ok i) :
    ∃ n, x.wholeSeconds = .ok n ∧ i.nanos = nanosPerSecond * n.toInt + x.fractionNanos := by
  unfold ofEpoch at h
  cases hwhole : x.wholeSeconds with
  | error e =>
    rw [hwhole] at h
    cases h
  | ok n =>
    simp only [hwhole, bind, Except.bind] at h
    split at h
    · next j hj =>
      cases h
      exact ⟨n, rfl, ofNanos?_eq_some_iff.mp hj⟩
    · cases h

end Instant

namespace Timestamp

/-- The second, with a sign, that a fraction makes when it is rounded to nanoseconds. -/
def carriedSecond : Timestamp → Int
  | epoch x => (Binary64.ofFloat x).fractionNanos.tdiv nanosPerSecond
  | _ => 0

theorem carriedSecond_natAbs_le (t : Timestamp) : t.carriedSecond.natAbs ≤ 1 := by
  cases t with
  | epoch x =>
    have hle := (Binary64.ofFloat x).fractionNanos_natAbs_le
    simp only [carriedSecond, nanosPerSecond]
    rw [Int.natAbs_tdiv]
    exact Nat.div_le_of_le_mul hle
  | _ => simp [carriedSecond]

theorem exists_seconds_of_resolve {t : Timestamp} {i : Instant} (h : t.resolve = .ok i) :
    ∃ n, (∀ style, t.token style = .ok (tokenText n style))
      ∧ ∀ style, i.token style = tokenText (n + t.carriedSecond) style := by
  have hother (ht : ∀ style, t.token style = .ok (i.token style)) (hcarry : t.carriedSecond = 0) :
      ∃ n, (∀ style, t.token style = .ok (tokenText n style))
        ∧ ∀ style, i.token style = tokenText (n + t.carriedSecond) style := by
    refine ⟨i.nanos.tdiv nanosPerSecond, ?_, ?_⟩
    · intro style
      rw [ht, Instant.token_eq]
    · intro style
      rw [hcarry, Int.add_zero, Instant.token_eq]
  cases t with
  | seconds n =>
    refine ⟨n.toInt, fun style => rfl, ?_⟩
    intro style
    rw [Instant.token_eq, Instant.nanos_of_ofSeconds h, Int.mul_tdiv_cancel_left _ (by decide)]
    simp [carriedSecond]
  | epoch x =>
    obtain ⟨n, hwhole, hnanos⟩ := Instant.exists_wholeSeconds_of_ofEpoch h
    refine ⟨n.toInt, ?_, ?_⟩
    · intro style
      simp only [token, hwhole, bind, Except.bind]
      rfl
    · intro style
      rw [Instant.token_eq, hnanos, Binary64.seconds_add_fractionNanos hwhole]
      rfl
  | text s =>
    apply hother
    · intro style
      simp only [token, h, bind, Except.bind]
      rfl
    · rfl
  | instant j =>
    cases h
    exact hother (fun style => rfl) rfl
  | wallClock j =>
    cases h
    exact hother (fun style => rfl) rfl
  | date d hd =>
    cases h
    exact hother (fun style => rfl) rfl

end Timestamp

end TimeMarkup
