import TimeMarkup.Proofs.Span.Phrases
import TimeMarkup.Proofs.Span.Reachable
import TimeMarkup.Proofs.Span.Reading

/-!
This module contains the way back from a description to its span. The main statement says that a
description down to seconds reads as span text once its commas and its "and" are taken out, and that
it gives the span back but for the part of a second.
-/

namespace TimeMarkup

/-- The text `cs` with a single space for every comma or "and" between phrases. -/
def spaced : List Char → List Char
  | ',' :: ' ' :: cs => ' ' :: spaced cs
  | ' ' :: 'a' :: 'n' :: 'd' :: ' ' :: cs => ' ' :: spaced cs
  | c :: cs => c :: spaced cs
  | [] => []

theorem spaced_append {as bs : List Char} (h : ∀ c ∈ as, c ≠ ',' ∧ c ≠ ' ') :
    spaced (as ++ bs) = as ++ spaced bs := by
  induction as with
  | nil => rfl
  | cons c as ih =>
    obtain ⟨hc, has⟩ := List.forall_mem_cons.mp h
    rw [List.cons_append, spaced, ih has]
    · rfl
    · intro _ hcomma
      exact absurd hcomma hc.1
    · intro _ hspace
      exact absurd hspace hc.2

theorem spaced_space_cons {cs : List Char} (h : ∀ c ∈ cs.head?, c ≠ 'a') :
    spaced (' ' :: cs) = ' ' :: spaced cs := by
  rw [spaced]
  · intro _ hcomma
    exact absurd hcomma (by decide)
  · rintro _ - rfl
    exact absurd rfl (h 'a' rfl)

namespace TimeUnit

def word : TimeUnit → Span.Word
  | years => .years
  | months => .months
  | days => .days
  | hours => .hours
  | minutes => .minutes
  | seconds => .seconds

def spelling (u : TimeUnit) (n : Int) : String :=
  if n = 1 then singular u.name else u.name

theorem word_inj {u v : TimeUnit} (h : u.word = v.word) : u = v := by
  cases u <;> cases v <;> first | rfl | cases h

theorem word_ne_weeks (u : TimeUnit) : u.word ≠ .weeks := by
  cases u <;> decide

theorem word_eq_seconds {u : TimeUnit} (h : u.word = .seconds) : u = seconds := by
  cases u <;> first | rfl | cases h

theorem spelling_mem_spellings (u : TimeUnit) (n : Int) : u.spelling n ∈ u.word.spellings := by
  unfold spelling
  split
  · cases u <;> decide
  · cases u <;> decide

theorem all_spellings_head?_ne (u : Span.Word) :
    u.spellings.all fun w => w.toList.head? ≠ some 'a' := by
  cases u <;> rfl

theorem head?_spelling_append (u : TimeUnit) (n : Int) (cs : List Char) :
    ∀ c ∈ ((u.spelling n).toList ++ cs).head?, c ≠ 'a' := by
  have hmem := u.spelling_mem_spellings n
  have hhead := List.all_eq_true.mp (all_spellings_head?_ne u.word) _ hmem
  obtain ⟨hne, -⟩ := Span.Word.isAlpha_of_mem_spellings hmem
  obtain ⟨d, ds, hd⟩ := List.exists_cons_of_ne_nil hne
  rw [hd] at hhead ⊢
  simpa using hhead

end TimeUnit

theorem phrase_toList (n : Int) (u : TimeUnit) :
    (phrase n u.name).toList = (decimal n).toList ++ ' ' :: (u.spelling n).toList := by
  unfold phrase TimeUnit.spelling
  split
  · next h =>
    subst h
    rw [String.toList_append]
    rfl
  · simp

theorem ne_comma_space_of_mem_decimal {n : Int} {c : Char} (h : c ∈ (decimal n).toList) :
    c ≠ ',' ∧ c ≠ ' ' := by
  constructor
  · rintro rfl
    rcases isDigit_or_of_mem_decimal h with hdigit | heq <;> contradiction
  · rintro rfl
    rcases isDigit_or_of_mem_decimal h with hdigit | heq <;> contradiction

theorem ne_comma_space_of_isAlpha {c : Char} (h : c.isAlpha) : c ≠ ',' ∧ c ≠ ' ' := by
  constructor
  · rintro rfl
    contradiction
  · rintro rfl
    contradiction

theorem spaced_phrase_append (n : Int) (u : TimeUnit) (cs : List Char) :
    spaced ((phrase n u.name).toList ++ cs) = (phrase n u.name).toList ++ spaced cs := by
  have halpha := (Span.Word.isAlpha_of_mem_spellings (u.spelling_mem_spellings n)).2
  rw [phrase_toList, List.append_assoc, List.append_assoc]
  rw [spaced_append (fun c hc => ne_comma_space_of_mem_decimal hc)]
  rw [List.cons_append, spaced_space_cons (u.head?_spelling_append n cs)]
  rw [spaced_append (fun c hc => ne_comma_space_of_isAlpha (halpha c hc))]
  rfl

theorem enumerate_cons_cons (p q : String) (ps : List String) :
    ∃ separator ∈ [" and ", ", "],
      enumerate (p :: q :: ps) = p ++ separator ++ enumerate (q :: ps) := by
  cases ps with
  | nil => exact ⟨" and ", by simp, rfl⟩
  | cons p' ps => exact ⟨", ", by simp, rfl⟩

theorem spaced_separator_append {separator : String} (h : separator ∈ [" and ", ", "])
    (cs : List Char) : spaced (separator.toList ++ cs) = ' ' :: spaced cs := by
  simp only [List.mem_cons, List.not_mem_nil, or_false] at h
  rcases h with rfl | rfl <;> rfl

namespace Span

def phraseOf (s : Span) (u : TimeUnit) : String :=
  phrase (s.amount u).toInt u.name

/-- All units of `s` that have an amount are among `us`. -/
structure Covers (us : List TimeUnit) (s : Span) : Prop where
  sublist : us.Sublist TimeUnit.all
  amount_eq_zero : ∀ u, u ∉ us → s.amount u = 0

theorem spaced_enumerate (s : Span) (us : List TimeUnit) :
    spaced (enumerate (us.map s.phraseOf)).toList
      = [' '].intercalate (us.map fun u => (s.phraseOf u).toList) := by
  induction us with
  | nil => rfl
  | cons u us ih =>
    cases us with
    | nil =>
      have hphrase := spaced_phrase_append (s.amount u).toInt u []
      simpa [enumerate, phraseOf, spaced] using hphrase
    | cons v us =>
      obtain ⟨separator, hseparator, htext⟩ :=
        enumerate_cons_cons (s.phraseOf u) (s.phraseOf v) (us.map s.phraseOf)
      rw [List.map_cons, List.map_cons] at ih
      rw [List.map_cons, List.map_cons, htext]
      rw [String.toList_append, String.toList_append, List.append_assoc]
      unfold phraseOf at ih ⊢
      rw [spaced_phrase_append, spaced_separator_append hseparator, ih]
      rw [List.map_cons, List.map_cons, List.intercalate_cons_cons]
      simp

def component (s : Span) (u : TimeUnit) (spaceAfter : Bool) : Component :=
  ⟨u.word, digits (s.amount u).toInt.natAbs, true, u.spelling (s.amount u).toInt, spaceAfter⟩

def components (s : Span) : List TimeUnit → List Component
  | [] => []
  | [u] => [s.component u false]
  | u :: v :: us => s.component u true :: components s (v :: us)

theorem Along.amount_nonneg {s : Span} (h : s.Along 1) (u : TimeUnit) :
    0 ≤ (s.amount u).toInt := by
  have ⟨_, _, _, _, _, _, _⟩ := h
  cases u <;> simp only [amount] <;> omega

theorem text_component {s : Span} {u : TimeUnit} (h : 0 ≤ (s.amount u).toInt) (b : Bool) :
    (s.component u b).text = (s.phraseOf u).toList ++ space b := by
  have hspace : space true = [' '] := rfl
  unfold phraseOf
  rw [phrase_toList, decimal_toList, if_neg (by omega)]
  simp [Component.text, component, hspace]

theorem flatMap_text_components {s : Span} (h : ∀ u, 0 ≤ (s.amount u).toInt)
    (us : List TimeUnit) :
    (s.components us).flatMap Component.text
      = [' '].intercalate (us.map fun u => (s.phraseOf u).toList) := by
  induction us with
  | nil => rfl
  | cons u us ih =>
    cases us with
    | nil => simp [components, text_component (h u), space]
    | cons v us =>
      rw [components, List.flatMap_cons, ih, text_component (h u)]
      simp only [List.map_cons, List.intercalate_cons_cons]
      rfl

theorem map_unit_components (s : Span) (us : List TimeUnit) :
    (s.components us).map Component.unit = us.map TimeUnit.word := by
  induction us with
  | nil => rfl
  | cons u us ih =>
    cases us with
    | nil => rfl
    | cons v us => exact congrArg (u.word :: ·) ih

theorem component_wellFormed (s : Span) {u : TimeUnit} {b : Bool} (h : u = .seconds → b = false) :
    (s.component u b).WellFormed where
  ne_nil := Nat.toDigits_ne_nil
  isDigit := fun _ hd => isDigit_of_mem_digits hd
  isSpelling := Word.mem_spellings_iff.mp (u.spelling_mem_spellings _)
  spaceAfter := fun hunit => h (TimeUnit.word_eq_seconds hunit)

theorem components_wellFormed (s : Span) {us : List TimeUnit}
    (h : us.Pairwise fun u v => u.rank < v.rank) :
    ∀ c ∈ s.components us, c.WellFormed := by
  induction us with
  | nil => simp [components]
  | cons u us ih =>
    obtain ⟨hu, hus⟩ := List.pairwise_cons.mp h
    cases us with
    | nil =>
      intro c hc
      rw [List.mem_singleton.mp hc]
      exact s.component_wellFormed fun _ => rfl
    | cons v us =>
      -- a unit follows, so this one is not the last that there is
      have hne : u ≠ .seconds := by
        rintro rfl
        have := hu v (by simp)
        have := v.rank_le_rank_seconds
        omega
      intro c hc
      cases hc with
      | head => exact s.component_wellFormed fun heq => absurd heq hne
      | tail _ hc => exact ih hus c hc

theorem exists_mem_components (s : Span) {us : List TimeUnit} {u : TimeUnit} (h : u ∈ us) :
    ∃ b, s.component u b ∈ s.components us := by
  induction us with
  | nil => cases h
  | cons v us ih =>
    cases us with
    | nil =>
      rw [List.mem_singleton.mp h]
      exact ⟨false, List.mem_singleton.mpr rfl⟩
    | cons w us =>
      cases h with
      | head => exact ⟨true, List.mem_cons_self⟩
      | tail _ h =>
        obtain ⟨b, hb⟩ := ih h
        exact ⟨b, List.mem_cons_of_mem _ hb⟩

theorem amountOf_eq_zero {w : Word} {cs : List Component} (h : w ∉ cs.map Component.unit) :
    amountOf w cs = 0 := by
  induction cs with
  | nil => rfl
  | cons c cs ih =>
    rw [List.map_cons, List.mem_cons, not_or] at h
    rw [amountOf, if_neg (Ne.symm h.1)]
    exact ih h.2

theorem nodup_units {us : List TimeUnit} (s : Span) (hus : us.Sublist TimeUnit.all) :
    ((s.components us).map Component.unit).Nodup := by
  rw [map_unit_components]
  exact (hus.map TimeUnit.word).nodup (by decide)

theorem amountOf_weeks (s : Span) (us : List TimeUnit) : amountOf .weeks (s.components us) = 0 := by
  apply amountOf_eq_zero
  rw [map_unit_components]
  intro hmem
  obtain ⟨v, _, heq⟩ := List.mem_map.mp hmem
  exact v.word_ne_weeks heq

theorem clamp_natAbs {a : Amount} (h : 0 ≤ a.toInt) : Amount.clamp a.toInt.natAbs = a := by
  have hle := a.le_toInt
  have hlt := a.toInt_lt
  rw [← Int64.toInt_inj, Amount.clamp_toInt]
  omega

theorem withoutNanoseconds_normal {s : Span} (hs : s.Normal) :
    { s with nanoseconds := 0 }.Normal where
  months := hs.months
  hours := hs.hours
  minutes := hs.minutes
  seconds := hs.seconds
  nanoseconds := Nat.zero_le _

section

variable {s : Span} {us : List TimeUnit} (hus : Covers us s)
include hus

theorem amountOf_components (u : TimeUnit) :
    amountOf u.word (s.components us) = (s.amount u).toInt.natAbs := by
  by_cases hu : u ∈ us
  · obtain ⟨b, hb⟩ := s.exists_mem_components hu
    have hamount := amountOf_unit (s.nodup_units hus.sublist) hb
    rw [show (s.component u b).digits = digits (s.amount u).toInt.natAbs from rfl,
      decimalValue_digits] at hamount
    exact hamount
  · rw [hus.amount_eq_zero u hu]
    apply amountOf_eq_zero
    rw [map_unit_components]
    intro hmem
    obtain ⟨v, hv, heq⟩ := List.mem_map.mp hmem
    rw [TimeUnit.word_inj heq] at hv
    exact hu hv

variable (h : ∀ u, 0 ≤ (s.amount u).toInt)
include h

theorem components_decompose :
    Decomposes Word.order (s.components us)
      ([' '].intercalate (us.map fun u => (s.phraseOf u).toList)) where
  sublist := by
    rw [map_unit_components]
    exact (hus.sublist.map TimeUnit.word).trans (by decide)
  wellFormed := s.components_wellFormed (TimeUnit.all_pairwise_rank.sublist hus.sublist)
  text_eq := flatMap_text_components h us

theorem components_inRange : InRange (s.components us) where
  digits := by
    intro c hc
    have hunit := List.mem_map_of_mem (f := Component.unit) hc
    rw [map_unit_components] at hunit
    obtain ⟨u, _, hu⟩ := List.mem_map.mp hunit
    have hnonneg := h u
    have hlt := (s.amount u).toInt_lt
    rw [← amountOf_unit (s.nodup_units hus.sublist) hc, ← hu, amountOf_components hus]
    omega
  days := by
    have hnonneg := h .days
    have hlt := (s.amount .days).toInt_lt
    have hdays := amountOf_components hus .days
    simp only [TimeUnit.word] at hdays
    rw [amountOf_weeks, hdays]
    omega

theorem total_components (hs : s.Normal) :
    total (s.components us) = { s with nanoseconds := 0 } := by
  have hclamp : ∀ u : TimeUnit, Amount.clamp (amountOf u.word (s.components us)) = s.amount u := by
    intro u
    rw [amountOf_components hus]
    exact clamp_natAbs (h u)
  have hyears : Amount.clamp (amountOf .years (s.components us)) = s.years := hclamp .years
  have hmonths : Amount.clamp (amountOf .months (s.components us)) = s.months := hclamp .months
  have hdays : Amount.clamp (amountOf .days (s.components us)) = s.days := hclamp .days
  have hhours : Amount.clamp (amountOf .hours (s.components us)) = s.hours := hclamp .hours
  have hminutes : Amount.clamp (amountOf .minutes (s.components us)) = s.minutes := hclamp .minutes
  have hseconds : Amount.clamp (amountOf .seconds (s.components us)) = s.seconds := hclamp .seconds
  unfold total
  rw [amountOf_weeks, Int.natCast_zero, Int.mul_zero, Int.zero_add]
  rw [hyears, hmonths, hdays, hhours, hminutes, hseconds]
  exact carry_eq_self (withoutNanoseconds_normal hs)

theorem ofText?_spaced_enumerate (hs : s.Normal) :
    ofText? (String.ofList (spaced (enumerate (us.map s.phraseOf)).toList))
      = some { s with nanoseconds := 0 } := by
  rw [ofText?_eq_some_iff, String.toList_ofList, spaced_enumerate]
  refine ⟨s.components us, ?_, ?_, ?_⟩
  · exact components_decompose hus h
  · exact components_inRange hus h
  · exact (total_components hus h hs).symm

end

theorem exists_describe_eq (s : Span) {maxUnits : Int} (hmax : 6 ≤ maxUnits) :
    ∃ us : List TimeUnit, us ≠ [] ∧ Covers us s
      ∧ s.describe "seconds" maxUnits = .ok (enumerate (us.map s.phraseOf)) := by
  have hshown : s.shown "seconds" maxUnits.toNat TimeUnit.all
      = TimeUnit.all.filter fun u => s.amount u ≠ 0 := by
    have hall : TimeUnit.downTo "seconds" TimeUnit.all = TimeUnit.all := by decide
    have hlength : (TimeUnit.all.filter fun u => s.amount u ≠ 0).length ≤ 6 :=
      List.length_filter_le _ TimeUnit.all
    rw [shown_eq_take (by omega) TimeUnit.all_pairwise_rank]
    rw [hall]
    apply List.take_of_length_le
    omega
  have hzero : ∀ u, u ∉ TimeUnit.all.filter (fun u => s.amount u ≠ 0) → s.amount u = 0 := by
    intro u hu
    simpa [TimeUnit.mem_all] using hu
  unfold describe
  rw [if_neg (by omega), hshown]
  cases hus : TimeUnit.all.filter fun u => s.amount u ≠ 0 with
  | nil =>
    rw [hus] at hzero
    have hnone : s.amount .seconds = 0 := hzero .seconds (by simp)
    refine ⟨[.seconds], by simp, ⟨by decide, fun u _ => hzero u (by simp)⟩, ?_⟩
    simp only [List.map_cons, List.map_nil, phraseOf, hnone]
    rfl
  | cons u us =>
    rw [hus] at hzero
    exact ⟨u :: us, by simp, ⟨hus ▸ List.filter_sublist, hzero⟩, rfl⟩

theorem phraseOf_append_inj {s t : Span} {u v : TimeUnit} {cs cs' : List Char}
    (hcs : ∀ c ∈ cs.head?, c.isAlpha = false) (hcs' : ∀ c ∈ cs'.head?, c.isAlpha = false)
    (h : (s.phraseOf u).toList ++ cs = (t.phraseOf v).toList ++ cs') :
    u = v ∧ s.amount u = t.amount v ∧ cs = cs' := by
  have hu := u.spelling_mem_spellings (s.amount u).toInt
  have hv := v.spelling_mem_spellings (t.amount v).toInt
  unfold phraseOf at h
  rw [phrase_toList, phrase_toList, List.append_assoc, List.append_assoc] at h
  obtain ⟨hamount, hbehind⟩ := decimal_append_inj (by simp) (by simp) h
  rw [List.cons_append, List.cons_append, List.cons.injEq] at hbehind
  obtain ⟨hword, hrest⟩ := append_inj_of_stop (Word.isAlpha_of_mem_spellings hu).2
    (Word.isAlpha_of_mem_spellings hv).2 hcs hcs' hbehind.2
  rw [String.toList_inj.mp hword] at hu
  refine ⟨?_, ?_, hrest⟩
  · exact TimeUnit.word_inj (Word.eq_of_mem_spellings hu hv)
  · exact Int64.toInt_inj.mp hamount

theorem isAlpha_head?_flatMap (s : Span) (us : List TimeUnit) :
    ∀ c ∈ (us.flatMap fun u => ' ' :: (s.phraseOf u).toList).head?, c.isAlpha = false := by
  cases us with
  | nil => simp
  | cons u us => simp

theorem eq_of_flatMap_phraseOf_eq {s t : Span} {us vs : List TimeUnit}
    (h : us.flatMap (fun u => ' ' :: (s.phraseOf u).toList)
      = vs.flatMap fun v => ' ' :: (t.phraseOf v).toList) :
    us = vs ∧ ∀ u ∈ us, s.amount u = t.amount u := by
  induction us generalizing vs with
  | nil =>
    cases vs with
    | nil => simp
    | cons v vs => simp at h
  | cons u us ih =>
    cases vs with
    | nil => simp at h
    | cons v vs =>
      rw [List.flatMap_cons, List.flatMap_cons, List.cons_append, List.cons_append,
        List.cons.injEq] at h
      obtain ⟨rfl, hamount, hrest⟩ := phraseOf_append_inj (isAlpha_head?_flatMap s us)
        (isAlpha_head?_flatMap t vs) h.2
      obtain ⟨rfl, hamounts⟩ := ih hrest
      exact ⟨rfl, List.forall_mem_cons.mpr ⟨hamount, hamounts⟩⟩

theorem space_cons_intercalate (s : Span) {us : List TimeUnit} (h : us ≠ []) :
    ' ' :: [' '].intercalate (us.map fun u => (s.phraseOf u).toList)
      = us.flatMap fun u => ' ' :: (s.phraseOf u).toList := by
  induction us with
  | nil => contradiction
  | cons u us ih =>
    cases us with
    | nil => simp
    | cons v us =>
      rw [List.flatMap_cons, ← ih (by simp)]
      simp [List.intercalate_cons_cons]

theorem amount_eq_of_describe_eq {s t : Span} {m n : Int} (hm : 6 ≤ m) (hn : 6 ≤ n)
    (h : s.describe "seconds" m = t.describe "seconds" n) (u : TimeUnit) :
    s.amount u = t.amount u := by
  obtain ⟨us, hus, hs, hstext⟩ := exists_describe_eq s hm
  obtain ⟨vs, hvs, ht, httext⟩ := exists_describe_eq t hn
  rw [hstext, httext, Except.ok.injEq] at h
  have hspaced := congrArg (fun text => ' ' :: spaced text.toList) h
  simp only [spaced_enumerate] at hspaced
  rw [space_cons_intercalate s hus, space_cons_intercalate t hvs] at hspaced
  obtain ⟨rfl, hamounts⟩ := eq_of_flatMap_phraseOf_eq hspaced
  by_cases hu : u ∈ us
  · exact hamounts u hu
  · rw [hs.amount_eq_zero u hu, ht.amount_eq_zero u hu]

/--
A description of a span that points forward, down to seconds and with room for all units, reads as
span text for the same span without its nanoseconds. No other span has the same description, apart
from its nanoseconds.
-/
theorem describe_reads_back {s : Span} (hs : Reachable s) (hsd : s.Along 1) {maxUnits : Int}
    (hmax : 6 ≤ maxUnits) :
    ∃ text, s.describe "seconds" maxUnits = .ok text
      ∧ ofText? (String.ofList (spaced text.toList)) = some { s with nanoseconds := 0 }
      ∧ ∀ (t : Span) (n : Int), 6 ≤ n → t.describe "seconds" n = .ok text →
        { t with nanoseconds := 0 } = { s with nanoseconds := 0 } := by
  obtain ⟨us, _, hus, htext⟩ := exists_describe_eq s hmax
  refine ⟨_, htext, ?_, ?_⟩
  · exact ofText?_spaced_enumerate hus hsd.amount_nonneg hs.normal
  · intro t n hn ht
    rw [← htext] at ht
    have hamount := amount_eq_of_describe_eq hn hmax ht
    rw [mk.injEq]
    exact ⟨hamount .years, hamount .months, hamount .days, hamount .hours, hamount .minutes,
      hamount .seconds, rfl⟩

theorem describe_reads_back_most_years :
    let s := (ofParts Int64.maxValue 0 25 0 59 1).withNanoseconds 999999999
    let text := "9223372036854775807 years, 25 days, 59 minutes and 1 second"
    Reachable s ∧ s.Along 1 ∧ s.describe "seconds" 6 = .ok text
      ∧ ofText? (String.ofList (spaced text.toList)) = some { s with nanoseconds := 0 } := by
  intro s text
  have hs : Reachable s := (Reachable.ofParts _ _ _ _ _ _).change (.set .nanoseconds 999999999)
  have hsd : s.Along 1 := by
    constructor <;> decide +kernel
  obtain ⟨shown, hshown, hread, _⟩ := describe_reads_back hs hsd (Int.le_refl 6)
  have htext : (s.describe "seconds" 6).toOption = some text := by decide +kernel
  rw [hshown] at htext
  obtain rfl : shown = text := Option.some.inj htext
  exact ⟨hs, hsd, hshown, hread⟩

end Span

end TimeMarkup
