import TimeMarkup.Proofs.Binary64.Truncation
import TimeMarkup.Proofs.Timestamp.Token

/-!
This module contains the number that stands in a token. The main statement says which number it is
for each form of timestamp, that it is written in canonical decimal, and that a token determines its
number and its style.
-/

namespace TimeMarkup

namespace Instant

theorem truncate_seconds (i : Instant) :
    truncate ((i.nanos : ℚ) / 1000000000) = i.nanos.tdiv nanosPerSecond :=
  truncate_div i.nanos 1000000000

theorem exists_amount_eq_truncate (i : Instant) :
    ∃ n : Amount, n.toInt = truncate ((i.nanos : ℚ) / 1000000000) := by
  have hlow := i.min_le
  have hhigh := i.le_max
  have hquotient : (i.nanos.tdiv nanosPerSecond).natAbs = i.nanos.natAbs / 1000000000 :=
    Int.natAbs_tdiv i.nanos nanosPerSecond
  rw [truncate_seconds]
  exists Amount.clamp (i.nanos.tdiv nanosPerSecond)
  apply Amount.clamp_toInt_of_le <;> omega

theorem truncate_seconds_mono {i i' : Instant} (h : i ≤ i') :
    truncate ((i.nanos : ℚ) / 1000000000) ≤ truncate ((i'.nanos : ℚ) / 1000000000) := by
  have hnanos : (i.nanos : ℚ) ≤ i'.nanos := Int.cast_le.mpr h
  apply truncate_mono
  gcongr

end Instant

namespace Timestamp

inductive Shows : Timestamp → Amount → Prop where
  | seconds (n : Amount) : Shows (.seconds n) n
  | epoch {x q n} (hq : (Binary64.ofFloat x).value? = some q) (hn : n.toInt = truncate q) :
    Shows (.epoch x) n
  | other {t i n} (hseconds : ∀ m, t ≠ .seconds m) (hepoch : ∀ x, t ≠ .epoch x)
    (hi : t.resolve = .ok i) (hn : n.toInt = truncate ((i.nanos : ℚ) / 1000000000)) : Shows t n

variable {t t' : Timestamp} {i i' : Instant} {n n' : Amount} {style style' : Style} {text : String}

theorem token_other (hseconds : ∀ m, t ≠ .seconds m) (hepoch : ∀ x, t ≠ .epoch x) :
    t.token style = (do let i ← t.resolve; return i.token style) := by
  cases t with
  | seconds m => exact absurd rfl (hseconds m)
  | epoch x => exact absurd rfl (hepoch x)
  | text s => rfl
  | instant j => rfl
  | wallClock j => rfl
  | date d hd => rfl

theorem token_of_shows (h : t.Shows n) : t.token style = .ok (tokenText n.toInt style) := by
  cases h with
  | seconds => rfl
  | epoch hq hn =>
    have hwhole := Binary64.wholeSeconds_eq_ok_iff.mpr ⟨_, hq, hn⟩
    simp only [token, hwhole, bind, Except.bind]
    rfl
  | other hseconds hepoch hi hn =>
    rw [token_other hseconds hepoch, hi]
    rw [hn, Instant.truncate_seconds, ← Instant.token_eq]
    rfl

theorem exists_shows_of_resolve (hseconds : ∀ m, t ≠ .seconds m) (hepoch : ∀ x, t ≠ .epoch x)
    (h : t.token style = .ok text) : ∃ n, t.Shows n := by
  rw [token_other hseconds hepoch] at h
  cases hi : t.resolve with
  | error e =>
    rw [hi] at h
    cases h
  | ok i =>
    obtain ⟨n, hn⟩ := i.exists_amount_eq_truncate
    exact ⟨n, .other hseconds hepoch hi hn⟩

theorem exists_shows_of_token (h : t.token style = .ok text) : ∃ n, t.Shows n := by
  cases t with
  | seconds m => exact ⟨m, .seconds m⟩
  | epoch x =>
    cases hwhole : (Binary64.ofFloat x).wholeSeconds with
    | error e =>
      simp only [token, hwhole, bind, Except.bind] at h
      cases h
    | ok m =>
      obtain ⟨q, hq, hm⟩ := Binary64.wholeSeconds_eq_ok_iff.mp hwhole
      exact ⟨m, .epoch hq hm⟩
  | text s => exact exists_shows_of_resolve (by simp) (by simp) h
  | instant j => exact exists_shows_of_resolve (by simp) (by simp) h
  | wallClock j => exact exists_shows_of_resolve (by simp) (by simp) h
  | date d hd => exact exists_shows_of_resolve (by simp) (by simp) h

theorem token_eq_ok_iff :
    t.token style = .ok text ↔ ∃ n, t.Shows n ∧ text = tokenText n.toInt style := by
  constructor
  · intro h
    obtain ⟨n, hn⟩ := exists_shows_of_token h
    rw [token_of_shows hn] at h
    exact ⟨n, hn, (Except.ok.inj h).symm⟩
  · rintro ⟨n, hn, rfl⟩
    exact token_of_shows hn

theorem shows_epoch_iff {x : Float} :
    (epoch x).Shows n ↔ ∃ q, (Binary64.ofFloat x).value? = some q ∧ n.toInt = truncate q := by
  constructor
  · intro h
    cases h with
    | epoch hq hn => exact ⟨_, hq, hn⟩
    | other _ hepoch => exact absurd rfl (hepoch x)
  · rintro ⟨q, hq, hn⟩
    exact .epoch hq hn

theorem Shows.eq_truncate (h : t.Shows n) (hepoch : ∀ x, t ≠ .epoch x) (hi : t.resolve = .ok i) :
    n.toInt = truncate ((i.nanos : ℚ) / 1000000000) := by
  cases h with
  | seconds =>
    rw [Instant.truncate_seconds, Instant.nanos_of_ofSeconds hi]
    rw [Int.mul_tdiv_cancel_left _ (by decide)]
  | epoch => exact absurd rfl (hepoch _)
  | other _ _ hj hn =>
    rw [hi] at hj
    cases hj
    exact hn

theorem Shows.mono (h : t.Shows n) (h' : t'.Shows n') (hepoch : ∀ x, t ≠ .epoch x)
    (hepoch' : ∀ x, t' ≠ .epoch x) (hi : t.resolve = .ok i) (hi' : t'.resolve = .ok i')
    (hle : i ≤ i') : n.toInt ≤ n'.toInt := by
  rw [h.eq_truncate hepoch hi, h'.eq_truncate hepoch' hi']
  exact Instant.truncate_seconds_mono hle

theorem token_epoch_isOk_iff {x : Float} :
    (∃ text, (epoch x).token style = .ok text) ↔ ∃ q, (Binary64.ofFloat x).value? = some q
      ∧ -9223372036854775808 ≤ truncate q ∧ truncate q < 9223372036854775808 := by
  constructor
  · rintro ⟨text, h⟩
    obtain ⟨n, hn, -⟩ := token_eq_ok_iff.mp h
    obtain ⟨q, hq, hnq⟩ := shows_epoch_iff.mp hn
    refine ⟨q, hq, ?_⟩
    rw [← hnq]
    exact ⟨n.le_toInt, n.toInt_lt⟩
  · rintro ⟨q, hq, hlow, hhigh⟩
    have hclamp := Amount.clamp_toInt_of_le hlow hhigh
    exact ⟨_, token_of_shows (shows_epoch_iff.mpr ⟨q, hq, hclamp⟩)⟩

theorem eq_of_token_eq (h : t.token style = .ok text) (h' : t'.token style' = .ok text) :
    style = style' ∧ ∀ n n', t.Shows n → t'.Shows n' → n = n' := by
  obtain ⟨m, hm, rfl⟩ := token_eq_ok_iff.mp h
  obtain ⟨m', hm', htext⟩ := token_eq_ok_iff.mp h'
  refine ⟨(tokenText_inj htext).2, ?_⟩
  intro n n' hn hn'
  rw [token_of_shows hn] at h
  rw [token_of_shows hn', ← Except.ok.inj h] at h'
  exact Int64.toInt_inj.mp (tokenText_inj (Except.ok.inj h')).1.symm

end Timestamp

end TimeMarkup
