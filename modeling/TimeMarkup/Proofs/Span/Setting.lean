import TimeMarkup.Proofs.Span.Reachable

/-!
This module contains spans that are built by setting one amount after the other. The main statement
says that amounts of one sign, set from the longest unit to the shortest, make the span that is
built from all at once, and that amounts within their bounds do so in any order.
-/

namespace TimeMarkup

namespace Span

def Part.given : List Part :=
  [years, months, days, hours, minutes, seconds]

def setFrom (t : Span) (ps : List Part) (s : Span) : Span :=
  ps.foldl (fun u p => u.set p (t.part p)) s

def sumOf (t : Span) (f : Part → Int) : List Part → Int
  | [] => 0
  | p :: ps => f p * (t.part p).toInt + sumOf t f ps

variable {d : Int} {s t u : Span} {p q : Part} {ps : List Part}

theorem along_sumOf {f : Part → Int} (hf : ∀ p, 0 ≤ f p) (h : t.Along d) (ps : List Part) :
    0 ≤ d * t.sumOf f ps := by
  induction ps with
  | nil => simp [sumOf]
  | cons p ps ih =>
    have hp : 0 ≤ f p * (d * (t.part p).toInt) := Int.mul_nonneg (hf p) (h.part_nonneg p)
    rw [sumOf]
    rw [Int.mul_add]
    rw [Int.mul_left_comm]
    omega

theorem Part.inMonths_nonneg (p : Part) : 0 ≤ p.inMonths := by
  cases p <;> decide

theorem Part.inNanos_nonneg (p : Part) : 0 ≤ p.inNanos := by
  cases p <;> decide

/-- Only the parts `ps` of `t` are missing in `u`, and nothing stands in their place. -/
structure Lacks (d : Int) (t : Span) (ps : List Part) (u : Span) : Prop where
  normal : u.Normal
  along : u.Along d
  empty : ∀ p ∈ ps, u.part p = 0
  months : u.totalMonths + t.sumOf Part.inMonths ps = t.totalMonths
  fixed : u.fixedNanos + t.sumOf Part.inNanos ps = t.fixedNanos

namespace Lacks

theorem totals_put (h : Lacks d t (p :: ps) u) :
    (u.put p (t.part p)).totalMonths + t.sumOf Part.inMonths ps = t.totalMonths
      ∧ (u.put p (t.part p)).fixedNanos + t.sumOf Part.inNanos ps = t.fixedNanos := by
  have hmonths := h.months
  have hfixed := h.fixed
  have hempty : (u.part p).toInt = 0 := by
    rw [h.empty p List.mem_cons_self]
    rfl
  rw [sumOf] at hmonths hfixed
  rw [totalMonths_put]
  rw [fixedNanos_put]
  rw [hempty]
  rw [Int.sub_zero]
  omega

theorem sumsFit_put (h : Lacks d t (p :: ps) u) (hd : d = 1 ∨ d = -1)
    (ht : t.Along d) (hfit : t.SumsFit) : (u.put p (t.part p)).SumsFit := by
  have ⟨hmonths, hfixed⟩ := h.totals_put
  have hput : (u.put p (t.part p)).Along d := h.along.put (ht.part_nonneg p)
  -- What is still missing has the sign of `t`, so `u` has not gone beyond it.
  have hmonthsRest := along_sumOf Part.inMonths_nonneg ht ps
  have hfixedRest := along_sumOf Part.inNanos_nonneg ht ps
  have hmonthsLe : d * (u.put p (t.part p)).totalMonths ≤ d * t.totalMonths := by
    rw [← hmonths]
    rw [Int.mul_add]
    omega
  have hfixedLe : d * (u.put p (t.part p)).fixedNanos ≤ d * t.fixedNanos := by
    rw [← hfixed]
    rw [Int.mul_add]
    omega
  have ⟨hdays, hyears⟩ := daySum_yearSum_fit hd hput ht hfit hmonthsLe hfixedLe
  exact put_sumsFit h.normal hdays hyears

theorem set (h : Lacks d t (p :: ps) u) (hd : d = 1 ∨ d = -1)
    (ht : t.Along d) (hfit : t.SumsFit) (hps : ∀ q ∈ ps, p.rank < q.rank) :
    Lacks d t ps (u.set p (t.part p)) where
  normal := by
    rw [set_eq_carry]
    apply carry_normal
  along := by
    rw [set_eq_carry]
    exact carry_along hd (h.along.put (ht.part_nonneg p))
  empty := by
    intro q hq
    rw [part_set_of_spares h.normal (Or.inr (hps q hq))]
    exact h.empty q (List.mem_cons_of_mem p hq)
  months := by
    rw [set_eq_carry]
    rw [(h.sumsFit_put hd ht hfit).totalMonths_carry]
    exact h.totals_put.1
  fixed := by
    rw [set_eq_carry]
    rw [(h.sumsFit_put hd ht hfit).fixedNanos_carry]
    exact h.totals_put.2

theorem setFrom_eq_carry (h : Lacks d t ps u) (hd : d = 1 ∨ d = -1)
    (ht : t.Along d) (hfit : t.SumsFit) (hps : ps.Pairwise fun p q => p.rank < q.rank) :
    t.setFrom ps u = t.carry := by
  induction ps generalizing u with
  | nil =>
    have hmonths := h.months
    have hfixed := h.fixed
    rw [sumOf] at hmonths hfixed
    rw [Int.add_zero] at hmonths hfixed
    exact eq_carry_of_totals_eq hd ht hfit h.normal h.along hmonths hfixed
  | cons p ps ih =>
    rw [List.pairwise_cons] at hps
    exact ih (h.set hd ht hfit hps.1) hps.2

end Lacks

theorem zero_lacks (hnanos : t.nanoseconds = 0) : Lacks d t Part.given zero where
  normal := zero_normal
  along := zero_along d
  empty := by
    intro p _
    cases p <;> rfl
  months := by
    have hzero : zero.totalMonths = 0 := rfl
    rw [hzero]
    simp only [Part.given, sumOf, Part.inMonths, part]
    unfold totalMonths
    omega
  fixed := by
    have hzero : zero.fixedNanos = 0 := rfl
    have hnano : t.nanoseconds.toInt = 0 := by
      rw [hnanos]
      rfl
    rw [hzero]
    simp only [Part.given, sumOf, Part.inNanos, part]
    unfold fixedNanos
    omega

theorem setFrom_of_along (hd : d = 1 ∨ d = -1) (ht : t.Along d) (hfit : t.SumsFit)
    (hnanos : t.nanoseconds = 0) :
    t.setFrom Part.given zero = t.carry := by
  apply (zero_lacks hnanos).setFrom_eq_carry hd ht hfit
  decide

theorem put_normal (hs : s.Normal) (ht : t.Normal) (p : Part) : (s.put p (t.part p)).Normal := by
  have ⟨hmonths, hhours, hminutes, hseconds, hnanos⟩ := hs
  have ⟨hmonths', hhours', hminutes', hseconds', hnanos'⟩ := ht
  cases p <;> constructor <;> assumption

theorem put_comm (h : p ≠ q) (s : Span) (m n : Amount) :
    (s.put p m).put q n = (s.put q n).put p m := by
  cases p <;> cases q <;> first | rfl | contradiction

theorem setFrom_eq_foldl_put (hs : s.Normal) (ht : t.Normal) (ps : List Part) :
    t.setFrom ps s = ps.foldl (fun u p => u.put p (t.part p)) s := by
  induction ps generalizing s with
  | nil => rfl
  | cons p ps ih =>
    have hput : (s.put p (t.part p)).Normal := put_normal hs ht p
    have hset : s.set p (t.part p) = s.put p (t.part p) := by
      rw [set_eq_carry]
      exact carry_eq_self hput
    unfold setFrom at ih ⊢
    rw [List.foldl_cons]
    rw [List.foldl_cons]
    rw [hset]
    exact ih hput

theorem setFrom_of_perm {qs : List Part} (hs : s.Normal) (ht : t.Normal) (h : ps.Perm qs) :
    t.setFrom ps s = t.setFrom qs s := by
  rw [setFrom_eq_foldl_put hs ht]
  rw [setFrom_eq_foldl_put hs ht]
  apply h.foldl_eq'
  intro p _ q _ u
  by_cases hpq : p = q
  · rw [hpq]
  · exact put_comm hpq u (t.part p) (t.part q)

theorem setFrom_of_normal (ht : t.Normal) (hnanos : t.nanoseconds = 0) :
    t.setFrom Part.given zero = t.carry := by
  rw [setFrom_eq_foldl_put zero_normal ht]
  rw [carry_eq_self ht]
  cases t
  rw [mk.injEq]
  exact ⟨rfl, rfl, rfl, rfl, rfl, rfl, hnanos.symm⟩

theorem setFrom_given (t s : Span) :
    t.setFrom Part.given s
      = (((((s.withYears t.years).withMonths t.months).withDays t.days).withHours
        t.hours).withMinutes t.minutes).withSeconds t.seconds := by
  simp only [setFrom, Part.given, List.foldl_cons, List.foldl_nil, set, part]

theorem exists_withWeeks_eq (s : Span) (n : Amount) :
    ∃ m : Amount, s.withWeeks n = s.withDays m
      ∧ (Amount.Fits (7 * n.toInt) → m.toInt = 7 * n.toInt) := by
  refine ⟨n.scaleClamped 7, rfl, ?_⟩
  intro ⟨hlow, hhigh⟩
  exact Amount.clamp_toInt_of_le hlow hhigh

/--
Setting an amount leaves everything alone that it spares. If no sum leaves the range of amounts, its
total grows by what the amount does. Amounts of one sign that are set from the longest unit to the
shortest make the same span as all at once, and amounts within their bounds do so in any order.
-/
theorem set_keeps_rest {s : Span} (hs : Reachable s) :
    (∀ (p : Part) (n : Amount),
      (∀ q, p.Spares q → (s.set p n).part q = s.part q)
        ∧ ((s.put p n).SumsFit →
          (s.set p n).totalMonths = s.totalMonths + p.inMonths * (n.toInt - (s.part p).toInt)
            ∧ (s.set p n).fixedNanos = s.fixedNanos + p.inNanos * (n.toInt - (s.part p).toInt)))
      ∧ (∀ n : Amount, ∃ m : Amount, s.withWeeks n = s.withDays m
        ∧ (Amount.Fits (7 * n.toInt) → m.toInt = 7 * n.toInt))
      ∧ (∀ y mo da h mi se : Amount,
        let t : Span := ⟨y, mo, da, h, mi, se, 0⟩
        (∀ d : Int, d = 1 ∨ d = -1 → t.Along d → t.SumsFit →
          (((((zero.withYears y).withMonths mo).withDays da).withHours h).withMinutes mi).withSeconds
            se = ofParts y mo da h mi se)
          ∧ (t.Normal → ∀ ps : List Part,
            ps.Perm Part.given → t.setFrom ps zero = ofParts y mo da h mi se)) := by
  refine ⟨?_, ?_, ?_⟩
  · intro p n
    constructor
    · intro q h
      exact part_set_of_spares hs.normal h
    · exact totals_set
  · exact exists_withWeeks_eq s
  · intro y mo da h mi se t
    constructor
    · intro d hd ht hfit
      have hset : t.setFrom Part.given zero = t.carry :=
        setFrom_of_along hd ht hfit rfl
      rw [setFrom_given] at hset
      exact hset
    · intro ht ps hps
      have hzero : zero.Normal := by constructor <;> decide
      rw [setFrom_of_perm hzero ht hps]
      exact setFrom_of_normal ht rfl

theorem set_keeps_rest_over_midnight :
    let s := (zero.withHours 23).withSeconds (-59)
    let t : Span := ⟨-1, -13, -1, -47, -61, -3661, 0⟩
    let u : Span := ⟨5, -11, 40, 23, -59, 59, 0⟩
    let ps : List Part := [.seconds, .days, .months, .minutes, .years, .hours]
    Reachable s ∧ Part.minutes.Spares .seconds ∧ (s.put .minutes 150).SumsFit
      ∧ (s.set .minutes 150).part .seconds = s.part .seconds
      ∧ (s.set .minutes 150).fixedNanos = s.fixedNanos + nanosPerMinute * 150
      ∧ (∃ m : Amount, s.withWeeks (-3) = s.withDays m ∧ m.toInt = -21)
      ∧ t.Along (-1) ∧ t.SumsFit
      ∧ (((((zero.withYears (-1)).withMonths (-13)).withDays (-1)).withHours (-47)).withMinutes
        (-61)).withSeconds (-3661) = ofParts (-1) (-13) (-1) (-47) (-61) (-3661)
      ∧ u.Normal ∧ u.setFrom ps zero = ofParts 5 (-11) 40 23 (-59) 59 := by
  intro s t u ps
  have hs : Reachable s := .change (.change .zero (.set .hours 23)) (.set .seconds (-59))
  have hspares : Part.minutes.Spares .seconds := by decide
  have hsums : (s.put .minutes 150).SumsFit := by decide
  have ht : t.Along (-1) := by constructor <;> decide
  have hfit : t.SumsFit := by decide
  have hu : u.Normal := by constructor <;> decide
  have hps : ps.Perm Part.given := by decide
  have ⟨hset, hweeks, hbuilt⟩ := set_keeps_rest hs
  have ⟨m, hdays, hm⟩ := hweeks (-3)
  have ⟨hkept, htotals⟩ := hset .minutes 150
  have ⟨hinOrder, _⟩ := hbuilt (-1) (-13) (-1) (-47) (-61) (-3661)
  have ⟨_, hanyOrder⟩ := hbuilt 5 (-11) 40 23 (-59) 59
  exact ⟨hs, hspares, hsums, hkept .seconds hspares, (htotals hsums).2,
    ⟨m, hdays, hm (by decide)⟩, ht, hfit, hinOrder (-1) (Or.inr rfl) ht hfit, hu, hanyOrder hu ps hps⟩

-- With both signs the minutes find their hours carried away.
example : (zero.withHours 24).withMinutes (-60) ≠ ofParts 0 0 0 24 (-60) 0 := by decide

end Span

end TimeMarkup
