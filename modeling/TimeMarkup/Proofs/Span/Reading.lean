import TimeMarkup.Proofs.Span.Grammar
import TimeMarkup.Proofs.Text.Quoted

/-!
This module contains the correspondence between span text and its grammar. The main statements say
that the reader takes exactly the texts that well-formed components make up, that no text is made up
by two lists of components, and that a text is refused only if there is none or it is out of range.
-/

namespace TimeMarkup

namespace Span

namespace Word

theorem mem_spellings_iff {u : Word} {w : String} : w ∈ u.spellings ↔ u.IsSpelling w := by
  unfold IsSpelling
  rw [or_left_comm]
  cases u <;> simp [spellings, singularName, letters]

theorem all_spellings_find? (u : Word) :
    u.spellings.all fun w => all.find? (fun v => v.spellings.contains w) = some u := by
  cases u <;> rfl

theorem all_spellings_isAlpha (u : Word) :
    u.spellings.all fun w => w.toList ≠ [] ∧ w.toList.all Char.isAlpha := by
  cases u <;> rfl

theorem eq_of_mem_spellings {u v : Word} {w : String} (hu : w ∈ u.spellings)
    (hv : w ∈ v.spellings) : u = v := by
  have hu := List.all_eq_true.mp u.all_spellings_find? w hu
  have hv := List.all_eq_true.mp v.all_spellings_find? w hv
  simp only [decide_eq_true_eq] at hu hv
  rw [hu, Option.some.injEq] at hv
  exact hv

theorem isAlpha_of_mem_spellings {u : Word} {w : String} (h : w ∈ u.spellings) :
    w.toList ≠ [] ∧ ∀ c ∈ w.toList, c.isAlpha := by
  have h := List.all_eq_true.mp u.all_spellings_isAlpha w h
  simpa using h

end Word

def StartsWithDigit (cs : List Char) : Prop :=
  ∀ c ∈ cs.head?, c.isDigit

theorem isDigit_eq_false_of_isAlpha {c : Char} (h : c.isAlpha) : c.isDigit = false := by
  unfold Char.isAlpha Char.isUpper Char.isLower at h
  unfold Char.isDigit
  grind

theorem isAlpha_eq_false_of_isDigit {c : Char} (h : c.isDigit) : c.isAlpha = false := by
  cases halpha : c.isAlpha with
  | false => rfl
  | true =>
    rw [isDigit_eq_false_of_isAlpha halpha] at h
    cases h

theorem exists_eq_space_append (cs : List Char) : ∃ b, cs = space b ++ dropSpace cs := by
  unfold dropSpace
  split
  · exact ⟨true, rfl⟩
  · exact ⟨false, rfl⟩

theorem dropSpace_space_append {b : Bool} {cs : List Char} (h : ∀ c ∈ cs.head?, c ≠ ' ') :
    dropSpace (space b ++ cs) = cs := by
  cases b with
  | true => rfl
  | false =>
    cases cs with
    | nil => rfl
    | cons c cs =>
      have hc : c ≠ ' ' := h c rfl
      simp [space, dropSpace, hc]

theorem space_append_inj {b b' : Bool} {cs cs' : List Char} (hcs : ∀ c ∈ cs.head?, c ≠ ' ')
    (hcs' : ∀ c ∈ cs'.head?, c ≠ ' ') (h : space b ++ cs = space b' ++ cs') : b = b' ∧ cs = cs' := by
  have hdrop := congrArg dropSpace h
  rw [dropSpace_space_append hcs, dropSpace_space_append hcs'] at hdrop
  subst hdrop
  have hspace := List.append_cancel_right h
  cases b <;> cases b' <;> simp_all [space]

theorem head?_space_append {p : Char → Bool} {b : Bool} {cs : List Char} (hspace : p ' ' = false)
    (h : ∀ c ∈ cs.head?, p c = false) : ∀ c ∈ (space b ++ cs).head?, p c = false := by
  cases b with
  | true => simpa [space] using hspace
  | false => simpa [space] using h

theorem StartsWithDigit.ne_space {cs : List Char} (h : StartsWithDigit cs) :
    ∀ c ∈ cs.head?, c ≠ ' ' := by
  rintro c hc rfl
  have := h ' ' hc
  contradiction

def Component.reading (c : Component) : Word × Nat :=
  (c.unit, decimalValue c.digits)

theorem Component.text_append (c : Component) (rest : List Char) :
    c.text ++ rest
      = c.digits ++ (space c.spaceBefore ++ (c.word.toList ++ (space c.spaceAfter ++ rest))) := by
  simp [Component.text]

namespace Component.WellFormed

variable {c c' : Component} {rest rest' : List Char}

theorem mem_spellings (h : c.WellFormed) : c.word ∈ c.unit.spellings :=
  Word.mem_spellings_iff.mpr h.isSpelling

theorem isAlpha_head? (h : c.WellFormed) (cs : List Char) :
    ∀ d ∈ (c.word.toList ++ cs).head?, d.isAlpha := by
  obtain ⟨hne, halpha⟩ := Word.isAlpha_of_mem_spellings h.mem_spellings
  obtain ⟨d, ds, hd⟩ := List.exists_cons_of_ne_nil hne
  rw [hd] at halpha ⊢
  simpa using halpha d (by simp)

theorem word_ne_space (h : c.WellFormed) (cs : List Char) :
    ∀ d ∈ (c.word.toList ++ cs).head?, d ≠ ' ' := by
  rintro d hd rfl
  have := h.isAlpha_head? cs ' ' hd
  contradiction

theorem startsWithDigit (h : c.WellFormed) (rest : List Char) :
    StartsWithDigit (c.text ++ rest) := by
  obtain ⟨d, ds, hd⟩ := List.exists_cons_of_ne_nil h.ne_nil
  have hdigit := h.isDigit
  rw [text_append]
  rw [hd] at hdigit ⊢
  simpa [StartsWithDigit] using hdigit d (by simp)

theorem splits_digits (h : c.WellFormed) (rest : List Char) :
    (c.text ++ rest).takeWhile Char.isDigit = c.digits
      ∧ (c.text ++ rest).dropWhile Char.isDigit
        = space c.spaceBefore ++ (c.word.toList ++ (space c.spaceAfter ++ rest)) := by
  rw [text_append]
  apply takeWhile_append_stop h.isDigit
  apply head?_space_append (by decide)
  intro d hd
  exact isDigit_eq_false_of_isAlpha (h.isAlpha_head? _ d hd)

theorem splits_word (h : c.WellFormed) (hrest : StartsWithDigit rest) :
    (c.word.toList ++ (space c.spaceAfter ++ rest)).takeWhile Char.isAlpha = c.word.toList
      ∧ (c.word.toList ++ (space c.spaceAfter ++ rest)).dropWhile Char.isAlpha
        = space c.spaceAfter ++ rest := by
  apply takeWhile_append_stop (Word.isAlpha_of_mem_spellings h.mem_spellings).2
  apply head?_space_append (by decide)
  intro d hd
  exact isAlpha_eq_false_of_isDigit (hrest d hd)

theorem component?_text_append (h : c.WellFormed) (hrest : StartsWithDigit rest) (u : Word) :
    component? u (c.text ++ rest)
      = if u = c.unit then some (decimalValue c.digits, rest) else none := by
  obtain ⟨hdigits, hbehind⟩ := h.splits_digits rest
  obtain ⟨hword, hafter⟩ := h.splits_word hrest
  simp only [component?, hdigits, hbehind, dropSpace_space_append (h.word_ne_space _), hword,
    hafter, String.ofList_toList, ofDigits_eq_decimalValue]
  by_cases hu : u = c.unit
  · subst hu
    rw [if_pos ⟨h.ne_nil, h.mem_spellings⟩, if_pos rfl]
    split
    · next hseconds => simp [h.spaceAfter hseconds, space]
    · rw [dropSpace_space_append hrest.ne_space]
  · have hother : c.word ∉ u.spellings := fun hmem =>
      hu (Word.eq_of_mem_spellings hmem h.mem_spellings)
    rw [if_neg (fun hboth => hother hboth.2), if_neg hu]

theorem eq_of_text_append_eq (h : c.WellFormed) (h' : c'.WellFormed) (hrest : StartsWithDigit rest)
    (hrest' : StartsWithDigit rest') (heq : c.text ++ rest = c'.text ++ rest') :
    c = c' ∧ rest = rest' := by
  have hdigits : c.digits = c'.digits := by
    rw [← (h.splits_digits rest).1, ← (h'.splits_digits rest').1, heq]
  have hbehind := (h.splits_digits rest).2
  rw [heq, (h'.splits_digits rest').2] at hbehind
  obtain ⟨hbefore, hword⟩ := space_append_inj (h'.word_ne_space _) (h.word_ne_space _) hbehind
  have hspelling : c.word = c'.word := by
    rw [← String.toList_inj, ← (h.splits_word hrest).1, ← (h'.splits_word hrest').1, hword]
  have hafter := (h.splits_word hrest).2
  rw [← hword, (h'.splits_word hrest').2] at hafter
  obtain ⟨hspace, hrests⟩ := space_append_inj hrest'.ne_space hrest.ne_space hafter
  have hunit : c.unit = c'.unit := by
    apply Word.eq_of_mem_spellings h.mem_spellings
    rw [hspelling]
    exact h'.mem_spellings
  constructor
  · cases c
    cases c'
    simp_all
  · exact hrests.symm

end Component.WellFormed

theorem component?_sound {u : Word} {cs rest : List Char} {n : Nat}
    (h : component? u cs = some (n, rest)) :
    ∃ c : Component, c.WellFormed ∧ c.reading = (u, n) ∧ cs = c.text ++ rest := by
  simp only [component?, Option.ite_none_right_eq_some, Option.some.injEq, Prod.mk.injEq] at h
  obtain ⟨⟨hne, hmem⟩, rfl, hrest⟩ := h
  obtain ⟨before, hbefore⟩ := exists_eq_space_append (cs.dropWhile Char.isDigit)
  generalize hafterDigits : dropSpace (cs.dropWhile Char.isDigit) = afterDigits at *
  obtain ⟨after, hafter, hlast⟩ : ∃ b, afterDigits.dropWhile Char.isAlpha = space b ++ rest
      ∧ (u = .seconds → b = false) := by
    split at hrest
    · exact ⟨false, hrest, fun _ => rfl⟩
    · next hu =>
      obtain ⟨b, hb⟩ := exists_eq_space_append (afterDigits.dropWhile Char.isAlpha)
      rw [hrest] at hb
      exact ⟨b, hb, fun hseconds => absurd hseconds hu⟩
  refine ⟨⟨u, cs.takeWhile Char.isDigit, before, String.ofList (afterDigits.takeWhile Char.isAlpha),
    after⟩, ⟨hne, ?_, Word.mem_spellings_iff.mp hmem, hlast⟩, ?_, ?_⟩
  · intro d hd
    exact List.all_eq_true.mp List.all_takeWhile d hd
  · rw [Component.reading, ofDigits_eq_decimalValue]
  · rw [Component.text_append]
    simp only [String.toList_ofList]
    rw [← hafter, List.takeWhile_append_dropWhile, ← hbefore, List.takeWhile_append_dropWhile]

theorem components?_sound {units : List Word} {text : List Char} {l : List (Word × Nat)}
    (h : components? units text = some l) :
    ∃ cs, Decomposes units cs text ∧ cs.map Component.reading = l := by
  induction units generalizing text l with
  | nil =>
    simp only [components?, Option.ite_none_right_eq_some, Option.some.injEq] at h
    obtain ⟨rfl, rfl⟩ := h
    exact ⟨[], ⟨by simp, by simp, rfl⟩, rfl⟩
  | cons u us ih =>
    unfold components? at h
    split at h
    · next n rest hcomponent =>
      obtain ⟨l', hl', rfl⟩ := Option.map_eq_some_iff.mp h
      obtain ⟨c, hc, hreading, rfl⟩ := component?_sound hcomponent
      obtain ⟨cs, hcs, rfl⟩ := ih hl'
      have hunit : c.unit = u := congrArg Prod.fst hreading
      refine ⟨c :: cs, ⟨?_, ?_, ?_⟩, ?_⟩
      · rw [List.map_cons, hunit]
        exact hcs.sublist.cons_cons u
      · exact List.forall_mem_cons.mpr ⟨hc, hcs.wellFormed⟩
      · rw [List.flatMap_cons, hcs.text_eq]
      · rw [List.map_cons, hreading]
    · obtain ⟨cs, hcs, rfl⟩ := ih h
      exact ⟨cs, ⟨hcs.sublist.cons u, hcs.wellFormed, hcs.text_eq⟩, rfl⟩

theorem startsWithDigit_flatMap {cs : List Component} (h : ∀ c ∈ cs, c.WellFormed) :
    StartsWithDigit (cs.flatMap Component.text) := by
  cases cs with
  | nil => simp [StartsWithDigit]
  | cons c cs => exact (h c (by simp)).startsWithDigit _

theorem component?_nil (u : Word) : component? u [] = none := by
  simp [component?]

theorem components?_complete {units : List Word} {cs : List Component} {text : List Char}
    (hunits : units.Nodup) (h : Decomposes units cs text) :
    components? units text = some (cs.map Component.reading) := by
  obtain ⟨hsub, hwell, rfl⟩ := h
  induction units generalizing cs with
  | nil =>
    have hcs : cs = [] := by simpa using hsub
    subst hcs
    rfl
  | cons u us ih =>
    obtain ⟨hu, hus⟩ := List.nodup_cons.mp hunits
    cases cs with
    | nil =>
      have hsub' : (([] : List Component).map Component.unit).Sublist us := List.nil_sublist us
      have hnil := ih hus hsub' hwell
      simpa [components?, component?_nil] using hnil
    | cons c cs =>
      have hc := hwell c (by simp)
      have hwell' : ∀ c ∈ cs, c.WellFormed := fun c hc => hwell c (by simp [hc])
      have hcomponent := hc.component?_text_append (startsWithDigit_flatMap hwell') u
      rw [components?, List.flatMap_cons, hcomponent]
      cases hsub with
      | cons _ hsub =>
        -- unit `u` is left out, so the reader passes over it
        have hne : u ≠ c.unit := by
          rintro rfl
          exact hu (hsub.subset (by simp))
        have htail := ih hus hsub hwell
        rw [List.flatMap_cons] at htail
        rw [if_neg hne]
        exact htail
      | cons_cons _ hsub =>
        rw [if_pos rfl]
        simp only [ih hus hsub hwell']
        rfl

theorem eq_of_flatMap_text_eq {cs cs' : List Component} (h : ∀ c ∈ cs, c.WellFormed)
    (h' : ∀ c ∈ cs', c.WellFormed)
    (heq : cs.flatMap Component.text = cs'.flatMap Component.text) : cs = cs' := by
  induction cs generalizing cs' with
  | nil =>
    cases cs' with
    | nil => rfl
    | cons c' cs' =>
      have hne := (h' c' (by simp)).ne_nil
      simp [Component.text, hne] at heq
  | cons c cs ih =>
    cases cs' with
    | nil =>
      have hne := (h c (by simp)).ne_nil
      simp [Component.text, hne] at heq
    | cons c' cs' =>
      obtain ⟨hc, hcs⟩ := List.forall_mem_cons.mp h
      obtain ⟨hc', hcs'⟩ := List.forall_mem_cons.mp h'
      rw [List.flatMap_cons, List.flatMap_cons] at heq
      obtain ⟨rfl, hrest⟩ := hc.eq_of_text_append_eq hc' (startsWithDigit_flatMap hcs)
        (startsWithDigit_flatMap hcs') heq
      rw [ih hcs hcs' hrest]

theorem Decomposes.eq {units units' : List Word} {cs cs' : List Component} {text : List Char}
    (h : Decomposes units cs text) (h' : Decomposes units' cs' text) : cs = cs' := by
  apply eq_of_flatMap_text_eq h.wellFormed h'.wellFormed
  rw [h.text_eq, h'.text_eq]

theorem written_map_reading (u : Word) (cs : List Component) :
    written (cs.map Component.reading) u = amountOf u cs := by
  induction cs with
  | nil => rfl
  | cons c cs ih =>
    unfold written at ih ⊢
    unfold amountOf
    by_cases hu : c.unit = u
    · simp [Component.reading, hu]
    · have hne : (u == c.unit) = false := beq_false_of_ne (Ne.symm hu)
      simpa [Component.reading, hu, hne, List.lookup_cons] using ih

theorem amountOf_le {cs : List Component} {bound : Nat}
    (h : ∀ c ∈ cs, decimalValue c.digits ≤ bound) (u : Word) : amountOf u cs ≤ bound := by
  induction cs with
  | nil => exact Nat.zero_le bound
  | cons c cs ih =>
    obtain ⟨hc, hcs⟩ := List.forall_mem_cons.mp h
    unfold amountOf
    split
    · exact hc
    · exact ih hcs

theorem amountOf_unit {cs : List Component} (h : (cs.map Component.unit).Nodup) {c : Component}
    (hc : c ∈ cs) : amountOf c.unit cs = decimalValue c.digits := by
  induction cs with
  | nil => cases hc
  | cons d ds ih =>
    obtain ⟨hd, hds⟩ := List.nodup_cons.mp h
    unfold amountOf
    cases hc with
    | head => rw [if_pos rfl]
    | tail _ hc =>
      have hne : d.unit ≠ c.unit := by
        intro heq
        rw [heq] at hd
        exact hd (List.mem_map_of_mem hc)
      rw [if_neg hne]
      exact ih hds hc

theorem ofInt?_natCast_eq_some_iff {n : Nat} {a : Amount} :
    Amount.ofInt? n = some a ↔ n ≤ 9223372036854775807 ∧ a = Amount.clamp n := by
  rw [Amount.ofInt?_eq_some_iff]
  constructor
  · intro h
    have := a.toInt_lt
    refine ⟨by omega, ?_⟩
    rw [← Int64.toInt_inj, h, Amount.clamp_toInt]
    omega
  · rintro ⟨hn, rfl⟩
    apply Amount.clamp_toInt_of_le <;> omega

theorem ofComponents?_eq_some_iff {cs : List Component} (h : (cs.map Component.unit).Nodup)
    {span : Span} :
    ofComponents? (cs.map Component.reading) = some span ↔ InRange cs ∧ span = total cs := by
  have hdays : (7 * amountOf .weeks cs + amountOf .days cs : Int)
      = (7 * amountOf .weeks cs + amountOf .days cs : Nat) := by omega
  unfold total
  simp only [ofComponents?, written_map_reading, hdays, Option.bind_eq_bind,
    Option.bind_eq_some_iff, ofInt?_natCast_eq_some_iff, Option.pure_def, Option.some.injEq]
  constructor
  · rintro ⟨_, ⟨hyears, rfl⟩, _, ⟨hmonths, rfl⟩, _, ⟨hdays, rfl⟩, _, ⟨hhours, rfl⟩, _,
      ⟨hminutes, rfl⟩, _, ⟨hseconds, rfl⟩, rfl⟩
    refine ⟨⟨?_, hdays⟩, rfl⟩
    intro c hc
    rw [← amountOf_unit h hc]
    cases c.unit <;> omega
  · rintro ⟨⟨hdigits, hdays⟩, rfl⟩
    have hle := amountOf_le hdigits
    exact ⟨_, ⟨hle .years, rfl⟩, _, ⟨hle .months, rfl⟩, _, ⟨hdays, rfl⟩, _, ⟨hle .hours, rfl⟩, _,
      ⟨hle .minutes, rfl⟩, _, ⟨hle .seconds, rfl⟩, rfl⟩

theorem Word.order_nodup : Word.order.Nodup := by
  decide

theorem ofText?_eq_some_iff {s : String} {span : Span} :
    ofText? s = some span
      ↔ ∃ cs, Decomposes Word.order cs s.toList ∧ InRange cs ∧ span = total cs := by
  have hall : Word.all = Word.order := rfl
  simp only [ofText?, hall, Option.bind_eq_bind, Option.bind_eq_some_iff]
  constructor
  · rintro ⟨l, hl, hspan⟩
    obtain ⟨cs, hcs, rfl⟩ := components?_sound hl
    exact ⟨cs, hcs, (ofComponents?_eq_some_iff (hcs.sublist.nodup Word.order_nodup)).mp hspan⟩
  · rintro ⟨cs, hcs, hspan⟩
    refine ⟨_, components?_complete Word.order_nodup hcs, ?_⟩
    exact (ofComponents?_eq_some_iff (hcs.sublist.nodup Word.order_nodup)).mpr hspan

theorem ofText?_eq_none_iff {s : String} :
    ofText? s = none ↔ ¬ ∃ cs, Decomposes Word.order cs s.toList ∧ InRange cs := by
  rw [Option.eq_none_iff_forall_ne_some]
  constructor
  · rintro h ⟨cs, hcs, hrange⟩
    exact h (total cs) (ofText?_eq_some_iff.mpr ⟨cs, hcs, hrange, rfl⟩)
  · intro h span hspan
    obtain ⟨cs, hcs, hrange, -⟩ := ofText?_eq_some_iff.mp hspan
    exact h ⟨cs, hcs, hrange⟩

theorem ofText_eq_ok_iff {s : String} {span : Span} :
    ofText s = .ok span ↔ ofText? s = some span := by
  unfold ofText
  split
  · next h => simp [h]
  · next h => simp [h]

theorem ofText_eq_error_iff {s : String} {e : Error} :
    ofText s = .error e ↔ ofText? s = none ∧ e = .unreadableSpan s := by
  unfold ofText
  split
  · next h => simp [h]
  · next h => simp [h, eq_comm]

theorem message_unreadableSpan (s : String) :
    (Error.unreadableSpan s).message = "invalid duration: " ++ quoted s := rfl

theorem message_unreadableSpan_of_isPlain {s : String} (h : ∀ c ∈ s.toList, IsPlain c) :
    (Error.unreadableSpan s).message = "invalid duration: \x22" ++ s ++ "\x22" := by
  rw [message_unreadableSpan]
  rw [quoted_of_isPlain h]
  rw [← String.append_assoc]
  rw [← String.append_assoc]
  rfl

theorem message_unreadableSpan_inj {s t : String}
    (h : (Error.unreadableSpan s).message = (Error.unreadableSpan t).message) : s = t := by
  rw [message_unreadableSpan, message_unreadableSpan] at h
  exact quoted_inj ((String.append_right_inj _).mp h)

/--
Span text is read if and only if components in range make it up. They can be told from the text, and
all other texts are refused with a message that tells the whole text.
-/
theorem ofText?_grammar (s : String) :
    (∀ span, ofText? s = some span
        ↔ ∃ cs, Decomposes Word.order cs s.toList ∧ InRange cs ∧ span = total cs)
      ∧ (∀ cs cs', Decomposes Word.order cs s.toList → Decomposes Word.order cs' s.toList →
        cs = cs')
      ∧ (∀ span, ofText s = .ok span ↔ ofText? s = some span)
      ∧ (∀ e, ofText s = .error e
        ↔ (¬ ∃ cs, Decomposes Word.order cs s.toList ∧ InRange cs) ∧ e = .unreadableSpan s
          ∧ e.kind = .invalidArgument ∧ e.message = "invalid duration: " ++ quoted s)
      ∧ ((∀ c ∈ s.toList, IsPlain c) →
        (Error.unreadableSpan s).message = "invalid duration: \x22" ++ s ++ "\x22")
      ∧ ∀ t, (Error.unreadableSpan t).message = (Error.unreadableSpan s).message → t = s := by
  refine ⟨?_, ?_, ?_, ?_, ?_, ?_⟩
  · intro span
    apply ofText?_eq_some_iff
  · intro cs cs' h h'
    exact h.eq h'
  · intro span
    apply ofText_eq_ok_iff
  · intro e
    rw [ofText_eq_error_iff, ofText?_eq_none_iff]
    constructor
    · rintro ⟨hnone, rfl⟩
      exact ⟨hnone, rfl, rfl, message_unreadableSpan s⟩
    · rintro ⟨hnone, he, -⟩
      exact ⟨hnone, he⟩
  · exact message_unreadableSpan_of_isPlain
  · intro t h
    exact message_unreadableSpan_inj h

theorem ofText?_grammar_all_units :
    let text := "1y 2 months3w4 D 5hour6M 7 seconds"
    let cs : List Component :=
      [⟨.years, ['1'], false, "y", true⟩, ⟨.months, ['2'], true, "months", false⟩,
        ⟨.weeks, ['3'], false, "w", false⟩, ⟨.days, ['4'], true, "D", true⟩,
        ⟨.hours, ['5'], false, "hour", false⟩, ⟨.minutes, ['6'], false, "M", true⟩,
        ⟨.seconds, ['7'], true, "seconds", false⟩]
    ofText? text = some ⟨1, 2, 25, 5, 6, 7, 0⟩ ∧ Decomposes Word.order cs text.toList
      ∧ (∀ cs', Decomposes Word.order cs' text.toList → cs' = cs)
      ∧ ofText? "90s1h" = none
      ∧ ∃ e, ofText "90s1h" = .error e ∧ e.kind = .invalidArgument
        ∧ e.message = "invalid duration: \x2290s1h\x22" := by
  intro text cs
  have hcs : Decomposes Word.order cs text.toList := by decide +kernel
  have hrange : InRange cs := by
    constructor <;> decide +kernel
  have htotal : ⟨1, 2, 25, 5, 6, 7, 0⟩ = total cs := by decide +kernel
  have ⟨hread, hunique, _⟩ := ofText?_grammar text
  have hnone : ofText? "90s1h" = none := by decide +kernel
  have ⟨_, _, _, hfails, hmessage, _⟩ := ofText?_grammar "90s1h"
  have herror : ofText "90s1h" = .error (.unreadableSpan "90s1h") := by
    rw [ofText_eq_error_iff]
    exact ⟨hnone, rfl⟩
  refine ⟨(hread _).mpr ⟨cs, hcs, hrange, htotal⟩, hcs, ?_, hnone, _, herror, ?_, ?_⟩
  · intro cs' hcs'
    exact hunique cs' cs hcs' hcs
  · exact ((hfails _).mp herror).2.2.1
  · rw [hmessage (by simp [IsPlain])]
    decide +kernel

end Span

end TimeMarkup
