import TimeMarkup.Proofs.Span.Reachable

/-!
This module contains the reading of exchanged spans. The main statement says which values are read,
that they are read as the carried amounts they spell, however these are spelled, and that writing
and reading a span is the identity for every span that can be built.
-/

namespace TimeMarkup

namespace Span

/-- The entry under `name` holds `a` and is the only one, or there is none and `a` is zero. -/
def Gives (entries : List (String × Wire)) (name : String) (a : Amount) : Prop :=
  (a = 0 ∧ ∀ e ∈ entries, e.1 ≠ name)
    ∨ ∃ before after, entries = before ++ (name, .integer a.toInt) :: after
      ∧ (∀ e ∈ before, e.1 ≠ name) ∧ ∀ e ∈ after, e.1 ≠ name

/-- The amounts that an exchanged value spells, which need not be carried. -/
inductive Spells : Wire → Span → Prop where
  /-- Entries under other names may stand anywhere in a record, with any value. -/
  | record {entries s} (h : ∀ f ∈ s.fields, Gives entries f.1 f.2) : Spells (.record entries) s
  /-- Zeros may be left out at the end of a list. -/
  | list {items s} (zeros : Nat)
    (h : items ++ List.replicate zeros (.integer 0) = s.fields.map fun f => .integer f.2.toInt) :
    Spells (.list items) s

variable {entries : List (String × Wire)} {items : List Wire} {name : String} {w w' : Wire}
  {a : Amount} {r s raw : Span}

theorem amountOfWire?_eq_some_iff : amountOfWire? w = some a ↔ w = .integer a.toInt := by
  cases w with
  | integer n =>
    rw [amountOfWire?, Amount.ofInt?_eq_some_iff, Wire.integer.injEq]
    exact eq_comm
  | _ => simp [amountOfWire?]

theorem entry?_eq_some_iff : entry? entries name = some a ↔ Gives entries name a := by
  constructor
  · intro h
    unfold entry? at h
    split at h
    · next hnone =>
      cases h
      refine .inl ⟨rfl, ?_⟩
      simpa using List.filter_eq_nil_iff.mp hnone
    · next key v hone =>
      obtain ⟨before, after, rfl, hbefore, hkey, hafter⟩ := List.filter_eq_cons_iff.mp hone
      rw [amountOfWire?_eq_some_iff] at h
      simp only [decide_eq_true_eq] at hbefore hkey
      subst h
      subst hkey
      refine .inr ⟨before, after, rfl, hbefore, ?_⟩
      simpa using List.filter_eq_nil_iff.mp hafter
    · cases h
  · intro h
    unfold entry?
    cases h with
    | inl h =>
      obtain ⟨rfl, hmissing⟩ := h
      have hnone : entries.filter (·.1 = name) = [] := by
        apply List.filter_eq_nil_iff.mpr
        simpa using hmissing
      rw [hnone]
    | inr h =>
      obtain ⟨before, after, rfl, hbefore, hafter⟩ := h
      have hone : (before ++ (name, .integer a.toInt) :: after).filter (·.1 = name)
          = [(name, .integer a.toInt)] := by
        apply List.filter_eq_cons_iff.mpr
        refine ⟨before, after, rfl, by simpa using hbefore, by simp, ?_⟩
        apply List.filter_eq_nil_iff.mpr
        simpa using hafter
      rw [hone]
      exact amountOfWire?_eq_some_iff.mpr rfl

theorem item?_eq_some_iff {i zeros : Nat} (h : i < items.length + zeros) :
    item? items i = some a
      ↔ (items ++ List.replicate zeros (.integer 0))[i]? = some (.integer a.toInt) := by
  unfold item?
  by_cases hi : i < items.length
  · rw [List.getElem?_append_left hi, List.getElem?_eq_getElem hi, Option.some.injEq]
    exact amountOfWire?_eq_some_iff
  · rw [List.getElem?_append_right (by omega), List.getElem?_replicate_of_lt (by omega)]
    rw [List.getElem?_eq_none (by omega)]
    simp only [Option.some.injEq, Wire.integer.injEq]
    exact Int64.toInt_inj.symm

theorem spells_record_iff : Spells (.record entries) s ↔
    entry? entries "years" = some s.years ∧ entry? entries "months" = some s.months
      ∧ entry? entries "days" = some s.days ∧ entry? entries "hours" = some s.hours
      ∧ entry? entries "minutes" = some s.minutes ∧ entry? entries "seconds" = some s.seconds
      ∧ entry? entries "nanoseconds" = some s.nanoseconds := by
  have hfields : Spells (.record entries) s ↔ ∀ f ∈ s.fields, Gives entries f.1 f.2 := by
    constructor
    · intro h
      cases h with
      | record h => exact h
    · exact .record
  rw [hfields]
  simp only [← entry?_eq_some_iff]
  simp only [fields, List.forall_mem_cons, List.not_mem_nil, false_imp_iff, implies_true, and_true]

theorem eq_seven_iff {α : Type} {xs : List α} (hlength : xs.length = 7) {a b c d e f g : α} :
    xs = [a, b, c, d, e, f, g] ↔ xs[0]? = some a ∧ xs[1]? = some b ∧ xs[2]? = some c
      ∧ xs[3]? = some d ∧ xs[4]? = some e ∧ xs[5]? = some f ∧ xs[6]? = some g := by
  match xs, hlength with
  | [_, _, _, _, _, _, _], _ => simp

theorem spells_list_iff_filled : Spells (.list items) s ↔ items.length ≤ 7
    ∧ items ++ List.replicate (7 - items.length) (.integer 0)
      = s.fields.map fun f => .integer f.2.toInt := by
  constructor
  · intro h
    cases h with
    | list zeros h =>
      have hlength := congrArg List.length h
      rw [List.length_append, List.length_replicate, List.length_map] at hlength
      have hseven : items.length + zeros = 7 := hlength
      have hzeros : 7 - items.length = zeros := by omega
      rw [hzeros]
      exact ⟨by omega, h⟩
  · rintro ⟨-, h⟩
    exact .list (7 - items.length) h

theorem spells_list_iff : Spells (.list items) s ↔ items.length ≤ 7
    ∧ item? items 0 = some s.years ∧ item? items 1 = some s.months ∧ item? items 2 = some s.days
    ∧ item? items 3 = some s.hours ∧ item? items 4 = some s.minutes
    ∧ item? items 5 = some s.seconds ∧ item? items 6 = some s.nanoseconds := by
  rw [spells_list_iff_filled]
  apply and_congr_right
  intro hlength
  have hitem (i : Nat) (hi : i < 7) (a : Amount) : item? items i = some a
      ↔ (items ++ List.replicate (7 - items.length) (.integer 0))[i]?
        = some (.integer a.toInt) := by
    apply item?_eq_some_iff
    omega
  rw [hitem 0 (by decide), hitem 1 (by decide), hitem 2 (by decide), hitem 3 (by decide)]
  rw [hitem 4 (by decide), hitem 5 (by decide), hitem 6 (by decide)]
  apply eq_seven_iff
  rw [List.length_append, List.length_replicate]
  omega

theorem ofWire?_eq_some_iff : ofWire? w = some r ↔ ∃ raw, Spells w raw ∧ raw.carry = r := by
  cases w with
  | record entries =>
    simp only [spells_record_iff]
    exact carried_eq_some_iff
  | list items =>
    unfold ofWire?
    dsimp only
    split
    · next hlong =>
      constructor
      · intro h
        cases h
      · rintro ⟨raw, hraw, -⟩
        exact absurd hlong (Nat.not_lt_of_le (spells_list_iff.mp hraw).1)
    · next hshort =>
      simp only [spells_list_iff, Nat.le_of_not_lt hshort, true_and]
      exact carried_eq_some_iff
  | _ =>
    constructor
    · intro h
      cases h
    · rintro ⟨raw, hraw, -⟩
      cases hraw

theorem ofWire?_of_spells (h : Spells w raw) : ofWire? w = some raw.carry :=
  ofWire?_eq_some_iff.mpr ⟨raw, h, rfl⟩

theorem spells_toWire (s : Span) : Spells s.toWire s := by
  apply spells_record_iff.mpr
  simp [fields, entry?, amountOfWire?_eq_some_iff]

theorem ofWire?_toWire (h : s.Normal) : ofWire? s.toWire = some s := by
  rw [ofWire?_of_spells (spells_toWire s)]
  rw [carry_eq_self h]

theorem carry_eq_ofParts (h : raw.nanoseconds = 0) : raw.carry
    = ofParts raw.years raw.months raw.days raw.hours raw.minutes raw.seconds := by
  unfold ofParts
  rw [← h]

/--
Writing and reading gives back every span that can be built. What is read are exactly the values
that spell some amounts. The result is these amounts carried, which writing and reading keeps. It
only depends on the amounts and not on whether a record or a list spells them, and without
nanoseconds it is the span with these parts.
-/
theorem exchange_round_trip :
    (∀ s, Reachable s → ofWire? s.toWire = some s)
      ∧ (∀ w r, ofWire? w = some r ↔ ∃ raw, Spells w raw ∧ raw.carry = r)
      ∧ (∀ w r, ofWire? w = some r → r.Normal ∧ ofWire? r.toWire = some r)
      ∧ (∀ w w' raw, Spells w raw → Spells w' raw → ofWire? w = ofWire? w')
      ∧ ∀ w raw, Spells w raw → raw.nanoseconds = 0 →
        ofWire? w = some
          (ofParts raw.years raw.months raw.days raw.hours raw.minutes raw.seconds) := by
  refine ⟨?_, ?_, ?_, ?_, ?_⟩
  · intro s hs
    exact ofWire?_toWire hs.normal
  · intro w r
    exact ofWire?_eq_some_iff
  · intro w r h
    have hr : r.Normal := (Reachable.ofWire h).normal
    exact ⟨hr, ofWire?_toWire hr⟩
  · intro w w' raw hw hw'
    rw [ofWire?_of_spells hw, ofWire?_of_spells hw']
  · intro w raw hw hnanos
    rw [ofWire?_of_spells hw, carry_eq_ofParts hnanos]

theorem exchange_round_trip_carried :
    let w : Wire := .record [("seconds", .integer 75), ("anchor", .null), ("months", .integer 14)]
    let w' : Wire :=
      .list [.integer 0, .integer 14, .integer 0, .integer 0, .integer 0, .integer 75]
    let raw : Span := ⟨0, 14, 0, 0, 0, 75, 0⟩
    let r : Span := ⟨1, 2, 0, 0, 1, 15, 0⟩
    Spells w raw ∧ Spells w' raw ∧ ofWire? w = ofWire? w'
      ∧ ofWire? w = some (ofParts 0 14 0 0 0 75) ∧ ofWire? w = some r ∧ Reachable r
      ∧ r.Normal ∧ ofWire? r.toWire = some r := by
  intro w w' raw r
  have hw : Spells w raw := spells_record_iff.mpr (by decide)
  have hw' : Spells w' raw := .list 1 rfl
  have ⟨hbuilt, hread, hkept, hsame, hparts⟩ := exchange_round_trip
  have hr : ofWire? w = some r := (hread w r).mpr ⟨raw, hw, by decide⟩
  have hreachable : Reachable r := .ofWire hr
  refine ⟨hw, hw', hsame w w' raw hw hw', hparts w raw hw rfl, hr, hreachable, ?_⟩
  exact ⟨(hkept w r hr).1, hbuilt r hreachable⟩

end Span

end TimeMarkup
