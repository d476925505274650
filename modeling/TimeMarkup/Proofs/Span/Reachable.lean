import TimeMarkup.Proofs.Span.Between
import TimeMarkup.Proofs.Span.Part
import TimeMarkup.Span.Reader
import TimeMarkup.Span.Wire

/-!
This module contains the spans that requests can build, from any source and by any number of
changes. The main statement says that their amounts are carried throughout, and that the arithmetic
on the way is the one of integers, apart from results that stop at the ends of the range of amounts.
-/

namespace TimeMarkup

namespace Span

inductive Change where
  | set (p : Part) (n : Amount)
  | weeks (n : Amount)
  | negate
  | absolute

def change (s : Span) : Change → Span
  | .set p n => s.set p n
  | .weeks n => s.withWeeks n
  | .negate => -s
  | .absolute => s.abs

def changes (s : Span) (cs : List Change) : Span :=
  cs.foldl change s

inductive Reachable : Span → Prop where
  | zero : Reachable zero
  | ofParts (years months days hours minutes seconds : Amount) :
    Reachable (ofParts years months days hours minutes seconds)
  | ofWire {w s} (h : ofWire? w = some s) : Reachable s
  | ofText {text s} (h : ofText? text = some s) : Reachable s
  | between (start stop : Instant) : Reachable (between start stop)
  | change {s} (h : Reachable s) (c : Change) : Reachable (s.change c)

structure Integers where
  years : Int
  months : Int
  days : Int
  hours : Int
  minutes : Int
  seconds : Int
  nanoseconds : Int

def integers (s : Span) : Integers :=
  ⟨s.years.toInt, s.months.toInt, s.days.toInt, s.hours.toInt, s.minutes.toInt, s.seconds.toInt,
    s.nanoseconds.toInt⟩

/-- The integer closest to `n` that an amount can hold. -/
def saturate (n : Int) : Int :=
  max (-9223372036854775808) (min n 9223372036854775807)

namespace Integers

def carry (a : Integers) : Integers :=
  let seconds := saturate (a.seconds + a.nanoseconds.tdiv 1000000000)
  let minutes := saturate (a.minutes + seconds.tdiv 60)
  let hours := saturate (a.hours + minutes.tdiv 60)
  { years := saturate (a.years + a.months.tdiv 12)
    months := a.months.tmod 12
    days := saturate (a.days + hours.tdiv 24)
    hours := hours.tmod 24
    minutes := minutes.tmod 60
    seconds := seconds.tmod 60
    nanoseconds := a.nanoseconds.tmod 1000000000 }

def map (f : Int → Int) (a : Integers) : Integers :=
  ⟨f a.years, f a.months, f a.days, f a.hours, f a.minutes, f a.seconds, f a.nanoseconds⟩

def put (a : Integers) (p : Part) (n : Int) : Integers :=
  match p with
  | .years => { a with years := n }
  | .months => { a with months := n }
  | .days => { a with days := n }
  | .hours => { a with hours := n }
  | .minutes => { a with minutes := n }
  | .seconds => { a with seconds := n }
  | .nanoseconds => { a with nanoseconds := n }

def change (a : Integers) : Change → Integers
  | .set p n => (a.put p n.toInt).carry
  | .weeks n => (a.put .days (saturate (7 * n.toInt))).carry
  | .negate => a.map fun n => saturate (-n)
  | .absolute => a.map fun n => saturate n.natAbs

def changes (a : Integers) (cs : List Change) : Integers :=
  cs.foldl change a

end Integers

theorem integers_carry (s : Span) : s.carry.integers = s.integers.carry := by
  unfold integers Integers.carry saturate
  rw [carry_years_toInt]
  rw [carry_months_toInt]
  rw [carry_days_toInt]
  rw [carry_hours_toInt]
  rw [carry_minutes_toInt]
  rw [carry_seconds_toInt]
  rw [carry_nanoseconds_toInt]
  rw [carriedHours_toInt]
  rw [carriedMinutes_toInt]
  rw [carriedSeconds_toInt]

theorem integers_map {f : Amount → Amount} {g : Int → Int} (s : Span)
    (h : ∀ a : Amount, (f a).toInt = g a.toInt) : (s.map f).integers = s.integers.map g := by
  unfold integers map Integers.map
  simp only [h]

theorem integers_neg (s : Span) : (-s).integers = s.integers.map fun n => saturate (-n) := by
  apply integers_map
  intro a
  apply Amount.clamp_toInt

theorem integers_abs (s : Span) : s.abs.integers = s.integers.map fun n => saturate n.natAbs := by
  apply integers_map
  intro a
  apply Amount.clamp_toInt

theorem integers_set (s : Span) (p : Part) (n : Amount) :
    (s.set p n).integers = (s.integers.put p n.toInt).carry := by
  have hput : (s.put p n).integers = s.integers.put p n.toInt := by
    cases p <;> rfl
  rw [set_eq_carry]
  rw [integers_carry]
  rw [hput]

theorem integers_change (s : Span) (c : Change) :
    (s.change c).integers = s.integers.change c := by
  cases c with
  | set p n => exact integers_set s p n
  | weeks n =>
    have hdays : (n.scaleClamped 7).toInt = saturate (7 * n.toInt) := n.scaleClamped_toInt 7
    have hset := integers_set s .days (n.scaleClamped 7)
    rw [hdays] at hset
    exact hset
  | negate => exact integers_neg s
  | absolute => exact integers_abs s

theorem integers_changes (s : Span) (cs : List Change) :
    (s.changes cs).integers = s.integers.changes cs := by
  induction cs generalizing s with
  | nil => rfl
  | cons c cs ih =>
    have hstep := ih (s.change c)
    rw [integers_change] at hstep
    exact hstep

theorem integers_between (start stop : Instant) :
    let rest := stop.nanos - (wholeMonths start stop).2.nanos
    (between start stop).integers
      = Integers.carry
          ⟨0, (wholeMonths start stop).1, 0, 0, 0, rest.tdiv 1000000000, rest.tmod 1000000000⟩ := by
  have ⟨hyears, hdays, hhours, hminutes⟩ := uncarried_zeros start stop
  intro rest
  rw [between_eq_carry]
  rw [integers_carry]
  unfold integers
  rw [hyears, hdays, hhours, hminutes]
  rw [uncarried_months_toInt]
  rw [uncarried_seconds_toInt]
  rw [uncarried_nanoseconds_toInt]

theorem carried_eq_some_iff
    {years months days hours minutes seconds nanoseconds : Option Amount} {r : Span} :
    (do
      let s : Span :=
        { years := ← years
          months := ← months
          days := ← days
          hours := ← hours
          minutes := ← minutes
          seconds := ← seconds
          nanoseconds := ← nanoseconds }
      return s.carry) = some r
      ↔ ∃ s : Span, (years = some s.years ∧ months = some s.months ∧ days = some s.days
        ∧ hours = some s.hours ∧ minutes = some s.minutes ∧ seconds = some s.seconds
        ∧ nanoseconds = some s.nanoseconds) ∧ s.carry = r := by
  simp only [Option.bind_eq_bind, Option.bind_eq_some_iff, Option.pure_def, Option.some.injEq]
  constructor
  · rintro ⟨y, hy, mo, hmo, d, hd, h, hh, mi, hmi, s, hs, n, hn, rfl⟩
    exact ⟨⟨y, mo, d, h, mi, s, n⟩, ⟨hy, hmo, hd, hh, hmi, hs, hn⟩, rfl⟩
  · rintro ⟨s, ⟨hy, hmo, hd, hh, hmi, hs, hn⟩, rfl⟩
    exact ⟨_, hy, _, hmo, _, hd, _, hh, _, hmi, _, hs, _, hn, rfl⟩

theorem exists_carry_of_ofWire? {w : Wire} {s : Span} (h : ofWire? w = some s) :
    ∃ raw : Span, s = raw.carry := by
  unfold ofWire? at h
  split at h
  · obtain ⟨raw, _, rfl⟩ := carried_eq_some_iff.mp h
    exact ⟨raw, rfl⟩
  · split at h
    · cases h
    · obtain ⟨raw, _, rfl⟩ := carried_eq_some_iff.mp h
      exact ⟨raw, rfl⟩
  · cases h

theorem exists_carry_of_ofText? {text : String} {s : Span} (h : ofText? text = some s) :
    ∃ raw : Span, s = raw.carry := by
  simp only [ofText?, ofComponents?, Option.bind_eq_bind, Option.bind_eq_some_iff, Option.pure_def,
    Option.some.injEq] at h
  obtain ⟨_, _, _, _, _, _, _, _, _, _, _, _, _, _, rfl⟩ := h
  exact ⟨_, rfl⟩

theorem map_normal {f : Amount → Amount} {s : Span}
    (h : ∀ a : Amount, (f a).toInt.natAbs ≤ a.toInt.natAbs) (hs : s.Normal) :
    (s.map f).Normal where
  months := Nat.le_trans (h s.months) hs.months
  hours := Nat.le_trans (h s.hours) hs.hours
  minutes := Nat.le_trans (h s.minutes) hs.minutes
  seconds := Nat.le_trans (h s.seconds) hs.seconds
  nanoseconds := Nat.le_trans (h s.nanoseconds) hs.nanoseconds

theorem neg_normal {s : Span} (h : s.Normal) : (-s).Normal := by
  apply map_normal _ h
  intro a
  rw [Amount.negClamped_toInt]
  omega

theorem abs_normal {s : Span} (h : s.Normal) : s.abs.Normal := by
  apply map_normal _ h
  intro a
  rw [Amount.absClamped_toInt]
  omega

-- The setters carry anew, whatever the span was before. Only the last two rely on it.
theorem change_normal {s : Span} (h : s.Normal) (c : Change) : (s.change c).Normal := by
  cases c with
  | set p n =>
    rw [change, set_eq_carry]
    apply carry_normal
  | weeks n => apply carry_normal
  | negate => exact neg_normal h
  | absolute => exact abs_normal h

theorem Reachable.normal {s : Span} (h : Reachable s) : s.Normal := by
  induction h with
  | zero => exact zero_normal
  | ofParts => apply carry_normal
  | ofWire h =>
    obtain ⟨raw, rfl⟩ := exists_carry_of_ofWire? h
    apply carry_normal
  | ofText h =>
    obtain ⟨raw, rfl⟩ := exists_carry_of_ofText? h
    apply carry_normal
  | between start stop => apply between_normal
  | change _ c ih => exact change_normal ih c

theorem Reachable.changes {s : Span} (h : Reachable s) (cs : List Change) :
    Reachable (s.changes cs) := by
  induction cs generalizing s with
  | nil => exact h
  | cons c cs ih => exact ih (h.change c)

theorem index_sub_natAbs_le (start stop : Instant) :
    (stop.date.index - start.date.index).natAbs ≤ 6291431 := by
  have := Instant.index_bounds start
  have := Instant.index_bounds stop
  omega

/--
A span that can be built is carried, and remains so whatever is changed about it. Carrying, changing
and measuring agree with integers that only stop at the ends of the range, so nothing wraps around.
The months that are searched for the distance of two instants fit 32 bits.
-/
theorem reachable_normal {s : Span} (h : Reachable s) (cs : List Change) :
    (s.changes cs).Normal
      ∧ (s.changes cs).integers = s.integers.changes cs
      ∧ (∀ raw : Span, raw.carry.integers = raw.integers.carry)
      ∧ ∀ start stop : Instant, (stop.date.index - start.date.index).natAbs ≤ 6291431
        ∧ (between start stop).integers
          = Integers.carry
              ⟨0, (wholeMonths start stop).1, 0, 0, 0,
                (stop.nanos - (wholeMonths start stop).2.nanos).tdiv 1000000000,
                (stop.nanos - (wholeMonths start stop).2.nanos).tmod 1000000000⟩ := by
  refine ⟨?_, ?_, ?_, ?_⟩
  · exact (h.changes cs).normal
  · apply integers_changes
  · apply integers_carry
  · intro start stop
    constructor
    · apply index_sub_natAbs_le
    · apply integers_between

theorem reachable_normal_least :
    let least : Amount := Int64.minValue
    let s := ofParts least least least least least least
    let cs : List Change := [.weeks least, .negate, .set .nanoseconds least, .absolute]
    Reachable s ∧ (s.changes cs).Normal ∧ (s.changes cs).integers = s.integers.changes cs
      ∧ (s.changes cs).years.toInt = 9223372036854775807
      ∧ (s.changes cs).days.toInt = 9223372036854669056 := by
  intro least s cs
  have hs : Reachable s := .ofParts least least least least least least
  have ⟨hnormal, hintegers, _⟩ := reachable_normal hs cs
  refine ⟨hs, hnormal, hintegers, ?_, ?_⟩
  · decide +kernel
  · decide +kernel

end Span

end TimeMarkup
