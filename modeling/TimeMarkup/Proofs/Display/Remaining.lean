import TimeMarkup.Display
import TimeMarkup.Proofs.Span.Orientation
import TimeMarkup.Proofs.Timestamp.Token

/-!
This module contains what remains until an expiry. The main statement says that the answer in words
agrees with the span from now to the expiry: it is expired if and only if the span points back, and
both fail together.
-/

namespace TimeMarkup

theorem tokenText_ne_expired (n : Int) (style : Style) : tokenText n style ≠ "Expired" := by
  intro h
  have hhead := congrArg (fun text => text.toList.head?) h
  simp [tokenText] at hhead

theorem Instant.token_ne_expired (i : Instant) (style : Style) : i.token style ≠ "Expired" :=
  tokenText_ne_expired _ style

namespace Clock

variable {c : Clock} {t : Timestamp} {i : Instant}

theorem remaining_eq (hblank : t.isBlank = false) (h : t.resolve = .ok i) :
    c.remaining (some t) = .ok (if i < c.now then "Expired" else i.token .relative) := by
  unfold remaining
  rw [Timestamp.filter_not_isBlank hblank]
  simp only [h, bind, Except.bind]
  split <;> rfl

theorem remaining_eq_error (hblank : t.isBlank = false) {e : Error} (h : t.resolve = .error e) :
    c.remaining (some t) = .error e := by
  unfold remaining
  rw [Timestamp.filter_not_isBlank hblank]
  simp only [h, bind, Except.bind]

theorem spanTo_eq {reference : Option Timestamp} {r : Instant} (h : t.resolve = .ok i)
    (hr : c.resolveOrNow reference = .ok r) : c.spanTo t reference = .ok (Span.between r i) := by
  unfold spanTo
  rw [h, hr]
  rfl

theorem spanTo_eq_error {reference : Option Timestamp} {e : Error} (h : t.resolve = .error e) :
    c.spanTo t reference = .error e := by
  unfold spanTo
  rw [h]
  rfl

theorem eq_expired_iff (hblank : t.isBlank = false) (h : t.resolve = .ok i) {text : String}
    (htext : c.remaining (some t) = .ok text) : text = "Expired" ↔ i < c.now := by
  rw [remaining_eq hblank h, Except.ok.injEq] at htext
  subst htext
  split
  · next hlt => simp [hlt]
  · next hlt => simp [hlt, i.token_ne_expired .relative]

theorem exists_eq_token_iff (hblank : t.isBlank = false) (h : t.resolve = .ok i) {text : String}
    (htext : c.remaining (some t) = .ok text) :
    (∃ n, text = "<t:" ++ decimal n ++ ":R>") ↔ c.now ≤ i := by
  simp only [← tokenText_relative]
  rw [remaining_eq hblank h, Except.ok.injEq] at htext
  subst htext
  rw [Instant.le_def]
  split
  · next hlt =>
    rw [Instant.lt_def] at hlt
    constructor
    · rintro ⟨n, heq⟩
      exact absurd heq.symm (tokenText_ne_expired n .relative)
    · intro hle
      omega
  · next hlt =>
    rw [Instant.lt_def] at hlt
    constructor
    · intro _
      omega
    · intro _
      exact ⟨_, rfl⟩

/--
What remains and the span from now to the expiry fail together, with the same error. Otherwise the
answer is expired exactly if the span is not empty and has no positive amount, be it nanoseconds
alone, and a token exactly if the span has no negative amount. The span between any two timestamps
leads from the one to the other.
-/
theorem remaining_agrees_with_spanTo (c : Clock) (hblank : t.isBlank = false) :
    (∀ e, c.remaining (some t) = .error e ↔ c.spanTo t none = .error e)
      ∧ (∀ text s, c.remaining (some t) = .ok text → c.spanTo t none = .ok s →
        (text = "Expired" ↔ s ≠ Span.zero ∧ ∀ n ∈ s.amounts, n ≤ 0)
          ∧ ((∃ n, text = "<t:" ++ decimal n ++ ":R>") ↔ ∀ n ∈ s.amounts, 0 ≤ n))
      ∧ ∀ x y i r, x.resolve = .ok i → y.resolve = .ok r →
        ∃ s, c.spanTo x (some y) = .ok s ∧ s.addTo? r = some i := by
  refine ⟨?_, ?_, ?_⟩
  · intro e
    cases h : t.resolve with
    | error e' =>
      rw [remaining_eq_error hblank h, spanTo_eq_error h]
      rw [Except.error.injEq, Except.error.injEq]
    | ok i =>
      rw [remaining_eq hblank h, spanTo_eq h rfl]
      simp
  · intro text s htext hspan
    cases h : t.resolve with
    | error e =>
      rw [spanTo_eq_error h] at hspan
      cases hspan
    | ok i =>
      rw [spanTo_eq h rfl] at hspan
      cases hspan
      rw [eq_expired_iff hblank h htext, exists_eq_token_iff hblank h htext]
      rw [Span.amounts_between_nonpos_iff, Span.amounts_between_nonneg_iff]
      rw [ne_eq, Span.between_eq_zero_iff, Instant.ext_iff]
      constructor
      · rw [Instant.lt_def, Instant.le_def]
        omega
      · rfl
  · intro x y i r hx hy
    exact ⟨Span.between r i, spanTo_eq hx hy, Span.addTo?_between r i⟩

/-- Of two expiries one has passed by a nanosecond, which only the nanoseconds of the span tell. -/
theorem remaining_agrees_with_spanTo_nanosecond :
    let now : Instant := ⟨1700000000 * 1000000000 + 1, by omega, by omega⟩
    let c : Clock := ⟨now⟩
    let t : Timestamp := .seconds 1700000000
    let u : Timestamp := .instant now
    let i : Instant := ⟨1700000000 * 1000000000, by omega, by omega⟩
    let s : Span := ⟨0, 0, 0, 0, 0, 0, -1⟩
    t.isBlank = false ∧ c.remaining (some t) = .ok "Expired" ∧ c.spanTo t none = .ok s
      ∧ s ≠ Span.zero ∧ (∀ n ∈ s.amounts, n ≤ 0)
      ∧ u.isBlank = false ∧ c.remaining (some u) = .ok "<t:1700000000:R>"
      ∧ c.spanTo u none = .ok Span.zero ∧ (∀ n ∈ Span.zero.amounts, 0 ≤ n)
      ∧ ∃ s', c.spanTo t (some (.instant .first)) = .ok s'
        ∧ s'.addTo? .first = some i := by
  intro now c t u i s
  have hremaining : c.remaining (some t) = .ok "Expired" := rfl
  have hresolve : t.resolve = .ok i := rfl
  have hspan : c.spanTo t none = .ok s := by
    rw [spanTo_eq hresolve rfl]
    exact congrArg Except.ok (by decide +kernel)
  have ⟨_, hagree, hround⟩ := remaining_agrees_with_spanTo c (t := t) rfl
  have ⟨hne, hnonpos⟩ := (hagree _ _ hremaining hspan).1.mp rfl
  have htext : tokenText 1700000000 .relative = "<t:1700000000:R>" := by decide +kernel
  have hremaining' : c.remaining (some u) = .ok "<t:1700000000:R>" := by
    rw [← htext]
    rfl
  have hspan' : c.spanTo u none = .ok Span.zero := by
    rw [spanTo_eq rfl rfl]
    exact congrArg Except.ok (by decide +kernel)
  have ⟨_, hagree', _⟩ := remaining_agrees_with_spanTo c (t := u) rfl
  rw [tokenText_relative] at htext
  have hnonneg := (hagree' _ _ hremaining' hspan').2.mp ⟨1700000000, htext.symm⟩
  refine ⟨rfl, hremaining, hspan, hne, hnonpos, rfl, hremaining', hspan', hnonneg, ?_⟩
  exact hround t (.instant .first) i .first hresolve rfl

end Clock

end TimeMarkup
