import TimeMarkup.Display
import TimeMarkup.Proofs.Span.Apply
import TimeMarkup.Proofs.Span.Truncation
import TimeMarkup.Proofs.Timestamp.Token

/-!
This module contains how close a distance in words comes to the real one. The main statement says
that the distance shown never leads beyond the timestamp, and that one more of the unit at which the
description ends does.
-/

namespace TimeMarkup

namespace Span

def toward (start stop : Instant) (s : Span) : Span :=
  if stop < start then -s else s

/--
`s` is no longer than the distance from `start` to `stop`, and one more `u` makes it longer. Applied
to `start` in the direction of `stop`, the one does not lead beyond `stop` and the other does, if it
leads to an instant at all.
-/
structure Understates (s : Span) (start stop : Instant) (u : TimeUnit) : Prop where
  along : s.Along 1
  reaches : ∃ i, (s.toward start stop).addTo? start = some i
    ∧ ((start ≤ i ∧ i ≤ stop) ∨ (stop ≤ i ∧ i ≤ start))
  passes : ∀ i, ((s.addOne u.part).toward start stop).addTo? start = some i →
    if stop < start then i < stop else stop < i

theorem toward_isMultiple (start stop : Instant) {s : Span} (hs : s.Normal) (hm : s.Moderate) :
    IsMultiple (direction start stop) s (s.toward start stop) := by
  unfold direction toward
  split
  · exact neg_isMultiple hs hm
  · exact isMultiple_one s

theorem abs_between_isMultiple (start stop : Instant) :
    IsMultiple (direction start stop) (between start stop) (between start stop).abs := by
  apply abs_isMultiple
  · apply direction_eq_one_or
  · apply between_normal
  · apply between_moderate
  · apply between_along

theorem addTo?_toward_eq_some_iff {start stop i : Instant} {s : Span} (hs : s.Normal)
    (hm : s.Moderate) :
    (s.toward start stop).addTo? start = some i
      ↔ (start.addMonths? (direction start stop * s.totalMonths)).isSome
          ∧ i.nanos = start.nanosAfterMonths (direction start stop * s.totalMonths)
            + direction start stop * s.fixedNanos := by
  have hmultiple := toward_isMultiple start stop hs hm
  have hd := direction_eq_one_or start stop
  rw [addTo?_eq_some_iff (hmultiple.normal hd hs)]
  rw [hmultiple.totalMonths hd]
  rw [hmultiple.fixedNanos hd]

theorem moderate_of_along {s : Span} (h : s.Along 1) (hmonths : s.totalMonths ≤ 12000000000000)
    (hfixed : s.fixedNanos ≤ 86400000000000000000000000) : s.Moderate := by
  have ⟨_, _, _, _, _, _, _⟩ := h
  unfold totalMonths at hmonths
  unfold fixedNanos nanosPerDay nanosPerHour nanosPerMinute nanosPerSecond at hfixed
  constructor <;> omega

section

variable (start stop : Instant)

theorem distance_totalMonths :
    (between start stop).abs.totalMonths
      = direction start stop * (wholeMonths start stop).1 := by
  rw [(abs_between_isMultiple start stop).totalMonths (direction_eq_one_or start stop)]
  rw [totalMonths_between]

theorem distance_fixedNanos :
    (between start stop).abs.fixedNanos
      = direction start stop * (stop.nanos - (wholeMonths start stop).2.nanos) := by
  rw [(abs_between_isMultiple start stop).fixedNanos (direction_eq_one_or start stop)]
  rw [fixedNanos_between]

theorem distance_normal : (between start stop).abs.Normal := by
  apply (abs_between_isMultiple start stop).normal
  · apply direction_eq_one_or
  · apply between_normal

theorem distance_along : (between start stop).abs.Along 1 := by
  apply (abs_between_isMultiple start stop).along_one
  apply between_along

theorem distance_moderate : (between start stop).abs.Moderate := by
  apply (abs_between_isMultiple start stop).moderate
  · apply direction_eq_one_or
  · apply between_moderate

theorem distance_totals_le :
    (between start stop).abs.totalMonths ≤ 6291431
      ∧ (between start stop).abs.fixedNanos ≤ 31 * 86400000000000 := by
  have hmonths := wholeMonths_natAbs_le start stop
  have hfixed := fixedNanos_between_natAbs_lt start stop
  rw [fixedNanos_between] at hfixed
  rw [distance_totalMonths]
  rw [distance_fixedNanos]
  rcases direction_eq_one_or start stop with hd | hd <;> rw [hd] <;> omega

end

theorem Part.inMonths_inNanos_le (p : Part) : p.inMonths ≤ 12 ∧ p.inNanos ≤ 86400000000000 := by
  cases p <;> decide

-- The months of a shorter span end between `start` and the instant that the whole months lead to.
-- Only a span with all of these months has a fixed part, and it is no longer than what is left.
theorem exists_addTo?_toward {start stop : Instant} {s : Span} (hs : s.Normal) (hm : s.Moderate)
    (hsd : s.Along 1)
    (h : (s.totalMonths < (between start stop).abs.totalMonths ∧ s.fixedNanos = 0)
      ∨ (s.totalMonths = (between start stop).abs.totalMonths
          ∧ s.fixedNanos ≤ (between start stop).abs.fixedNanos)) :
    ∃ i, (s.toward start stop).addTo? start = some i
      ∧ ((start ≤ i ∧ i ≤ stop) ∨ (stop ≤ i ∧ i ≤ start)) := by
  have hreached := Instant.addMonths?_eq_some_iff.mp (wholeMonths_isFarthest start stop).reached
  have hrest := (wholeMonths_isFarthest start stop).not_beyond
  have hmonths := hsd.totalMonths_nonneg
  have hfixed := hsd.fixedNanos_nonneg
  have hzero := Instant.nanosAfterMonths_zero start
  rw [distance_totalMonths] at h
  rw [distance_fixedNanos] at h
  generalize hshift : start.nanosAfterMonths (direction start stop * s.totalMonths) = shift
  have hends : ((start.nanos ≤ shift ∧ shift ≤ stop.nanos)
        ∧ start.nanos ≤ shift + direction start stop * s.fixedNanos
        ∧ shift + direction start stop * s.fixedNanos ≤ stop.nanos)
      ∨ ((stop.nanos ≤ shift ∧ shift ≤ start.nanos)
        ∧ stop.nanos ≤ shift + direction start stop * s.fixedNanos
        ∧ shift + direction start stop * s.fixedNanos ≤ start.nanos) := by
    rcases direction_eq start stop with ⟨hd, hlt⟩ | ⟨hd, hle⟩
    · right
      rw [hd] at h hrest hshift ⊢
      have hnear := Instant.nanosAfterMonths_le start (m := -1 * s.totalMonths) (n := 0) (by omega)
      have hfar := Instant.nanosAfterMonths_le start (m := (wholeMonths start stop).1)
        (n := -1 * s.totalMonths) (by omega)
      rcases h with ⟨_, hnone⟩ | ⟨hall, hpart⟩
      · omega
      · rw [show -1 * s.totalMonths = (wholeMonths start stop).1 by omega] at hshift
        omega
    · left
      rw [hd] at h hrest hshift ⊢
      have hnear := Instant.nanosAfterMonths_le start (m := 0) (n := 1 * s.totalMonths) (by omega)
      have hfar := Instant.nanosAfterMonths_le start (m := 1 * s.totalMonths)
        (n := (wholeMonths start stop).1) (by omega)
      rcases h with ⟨_, hnone⟩ | ⟨hall, hpart⟩
      · omega
      · rw [show 1 * s.totalMonths = (wholeMonths start stop).1 by omega] at hshift
        omega
  obtain ⟨j, hj⟩ := Instant.exists_nanos_eq_of_between (hends.imp And.left And.left)
  obtain ⟨i, hi⟩ := Instant.exists_nanos_eq_of_between (hends.imp And.right And.right)
  refine ⟨i, ?_, ?_⟩
  · rw [addTo?_toward_eq_some_iff hs hm]
    rw [hshift]
    exact ⟨Instant.addMonths?_isSome_of_nanosAfterMonths (hj.trans hshift.symm), hi⟩
  · rw [← hi] at hends
    exact hends.imp And.right And.right

theorem passes_of_addTo?_toward {start stop i : Instant} {s : Span} (hs : s.Normal)
    (hm : s.Moderate)
    (h : ((between start stop).abs.totalMonths < s.totalMonths ∧ s.fixedNanos = 0)
      ∨ (s.totalMonths = (between start stop).abs.totalMonths
          ∧ (between start stop).abs.fixedNanos < s.fixedNanos))
    (hi : (s.toward start stop).addTo? start = some i) :
    if stop < start then i < stop else stop < i := by
  have hreached := Instant.addMonths?_eq_some_iff.mp (wholeMonths_isFarthest start stop).reached
  have hbeyond := (wholeMonths_isFarthest start stop).beyond
  rw [distance_totalMonths] at h
  rw [distance_fixedNanos] at h
  rw [addTo?_toward_eq_some_iff hs hm] at hi
  obtain ⟨_, hi⟩ := hi
  simp only [Instant.lt_def]
  rcases direction_eq start stop with ⟨hd, hlt⟩ | ⟨hd, hle⟩
  · rw [if_pos hlt]
    rw [hd] at h hi hbeyond
    rcases h with ⟨hmore, hnone⟩ | ⟨hall, hpart⟩
    · have := Instant.nanosAfterMonths_le start (m := -1 * s.totalMonths)
        (n := (wholeMonths start stop).1 + -1) (by omega)
      omega
    · rw [show -1 * s.totalMonths = (wholeMonths start stop).1 by omega] at hi
      omega
  · rw [if_neg (Int.not_lt.mpr hle)]
    rw [hd] at h hi hbeyond
    rcases h with ⟨hmore, hnone⟩ | ⟨hall, hpart⟩
    · have := Instant.nanosAfterMonths_le start (m := (wholeMonths start stop).1 + 1)
        (n := 1 * s.totalMonths) (by omega)
      omega
    · rw [show 1 * s.totalMonths = (wholeMonths start stop).1 by omega] at hi
      omega

theorem shownPart_understates (start stop : Instant) (precision : String) {maxUnits : Nat}
    (hmax : 0 < maxUnits) :
    ((between start stop).abs.shownPart precision maxUnits).Understates start stop
      ((between start stop).abs.lastUnit precision maxUnits) := by
  have hcut := shownPart_isCut (between start stop).abs precision hmax
  generalize (between start stop).abs.shownPart precision maxUnits = shown at hcut ⊢
  generalize (between start stop).abs.lastUnit precision maxUnits = u at hcut ⊢
  have hnormal := hcut.normal (distance_normal start stop)
  have hmoderate := hcut.moderate (distance_moderate start stop)
  have halong := hcut.along (distance_along start stop)
  have hmost := hcut.at_most (distance_along start stop)
  have hmore := hcut.lt_addOne (distance_normal start stop)
  have ⟨hmonths, hfixed⟩ := totals_addOne hnormal hmoderate u.part
  constructor
  · exact halong
  · exact exists_addTo?_toward hnormal hmoderate halong hmost
  · intro i hi
    have hnext : (shown.addOne u.part).Moderate := by
      have ⟨hlong, hlong'⟩ := distance_totals_le start stop
      have ⟨hunit, hunit'⟩ := u.part.inMonths_inNanos_le
      apply moderate_of_along (addOne_along hnormal hmoderate halong u.part) <;> omega
    apply passes_of_addTo?_toward (addOne_normal u.part shown) hnext _ hi
    omega

end Span

namespace Clock

theorem tokenWithDistance_eq {c : Clock} {t : Timestamp} {reference : Option Timestamp}
    {precision : String} {maxUnits : Int} {p r : Instant} (hblank : t.isBlank = false)
    (hp : t.resolve = .ok p) (hr : c.resolveOrNow reference = .ok r) (hmax : 0 < maxUnits) :
    c.tokenWithDistance (some t) reference precision maxUnits
      = .ok (some ("<t:" ++ decimal (p.nanos.tdiv 1000000000) ++ ":f> ("
          ++ (Span.between r p).abs.rendering precision maxUnits.toNat ++ ")")) := by
  have hspan : c.spanTo (.instant p) reference = .ok (Span.between r p) := by
    unfold spanTo Timestamp.resolve
    rw [hr]
    rfl
  have hdescribe : (Span.between r p).abs.describe precision maxUnits
      = .ok ((Span.between r p).abs.rendering precision maxUnits.toNat) :=
    Span.describe_eq_rendering hmax
  have htext : p.token .dateTime ++ " ("
      = "<t:" ++ decimal (p.nanos.tdiv 1000000000) ++ ":f> (" := by
    rw [Instant.token_dateTime]
    apply String.append_assoc
  unfold tokenWithDistance
  rw [Timestamp.filter_not_isBlank hblank]
  rw [← htext]
  simp only [hp, hspan, hdescribe, bind, Except.bind]
  rfl

/--
The distance is shown as all amounts of a span in words. It understates the real distance, by less
than one of the unit at which the description ends.
-/
theorem tokenWithDistance_understates {c : Clock} {t : Timestamp} {reference : Option Timestamp}
    {precision : String} {maxUnits : Int} {p r : Instant} (hblank : t.isBlank = false)
    (hp : t.resolve = .ok p) (hr : c.resolveOrNow reference = .ok r) (hmax : 0 < maxUnits) :
    let distance := (Span.between r p).abs
    let shown := distance.shownPart precision maxUnits.toNat
    c.tokenWithDistance (some t) reference precision maxUnits
        = .ok (some ("<t:" ++ decimal (p.nanos.tdiv 1000000000) ++ ":f> ("
            ++ shown.wording precision ++ ")"))
      ∧ (∀ n : Int, IsDecimal n (decimal n).toList)
      ∧ shown.Understates r p (distance.lastUnit precision maxUnits.toNat) := by
  have hpos : 0 < maxUnits.toNat := by omega
  refine ⟨?_, ?_, ?_⟩
  · rw [← Span.rendering_eq_wording_shownPart hpos]
    exact tokenWithDistance_eq hblank hp hr hmax
  · exact isDecimal_decimal
  · exact Span.shownPart_understates r p precision hpos

/-- From January 31 a month leads to February 28, and the seconds left are just short of a day. -/
theorem tokenWithDistance_understates_february :
    let p : Instant := ⟨1614556799 * 1000000000, by omega, by omega⟩
    let r : Instant := ⟨1612051200 * 1000000000, by omega, by omega⟩
    let t : Timestamp := .seconds 1614556799
    let reference : Timestamp := .seconds 1612051200
    let shown : Span := ⟨0, 1, 0, 23, 0, 0, 0⟩
    t.isBlank = false ∧ t.resolve = .ok p ∧ atNoon.resolveOrNow (some reference) = .ok r
      ∧ atNoon.tokenWithDistance (some t) (some reference) "hours" 2
        = .ok (some "<t:1614556799:f> (1 month and 23 hours)")
      ∧ shown.Understates r p .hours := by
  intro p r t reference shown
  have hblank : t.isBlank = false := rfl
  have hp : t.resolve = .ok p := rfl
  have hr : atNoon.resolveOrNow (some reference) = .ok r := rfl
  have hmax : (0 : Int) < 2 := by decide
  have ⟨htext, _, hunderstates⟩ :=
    @tokenWithDistance_understates atNoon t (some reference) "hours" 2 p r hblank hp hr hmax
  have hshown : (Span.between r p).abs.shownPart "hours" 2 = shown := by decide +kernel
  have hlast : (Span.between r p).abs.lastUnit "hours" 2 = .hours := by decide +kernel
  have hwording : "<t:" ++ decimal (p.nanos.tdiv 1000000000) ++ ":f> (" ++ shown.wording "hours"
      ++ ")" = "<t:1614556799:f> (1 month and 23 hours)" := by decide +kernel
  rw [show (2 : Int).toNat = 2 from rfl] at htext hunderstates
  rw [hshown, hwording] at htext
  rw [hshown, hlast] at hunderstates
  exact ⟨hblank, hp, hr, htext, hunderstates⟩

end Clock

end TimeMarkup
