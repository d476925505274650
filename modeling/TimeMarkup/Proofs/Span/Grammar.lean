import TimeMarkup.Proofs.Text.Digits
import TimeMarkup.Span.Reader

/-!
This module contains the grammar of span text, apart from its reader: the components that can be
written, the texts that they make up, and the span that they stand for.
-/

namespace TimeMarkup

namespace Span

namespace Word

def order : List Word :=
  [years, months, weeks, days, hours, minutes, seconds]

def singularName : Word → String
  | years => "year"
  | months => "month"
  | weeks => "week"
  | days => "day"
  | hours => "hour"
  | minutes => "minute"
  | seconds => "second"

/-- The letters that stand for a unit. A small `m` is a month and a capital `M` a minute. -/
def letters : Word → List String
  | years => ["Y", "y"]
  | months => ["m"]
  | weeks => ["W", "w"]
  | days => ["D", "d"]
  | hours => ["H", "h"]
  | minutes => ["M"]
  | seconds => ["S", "s"]

/-- `w` is the name of the unit `u`, with or without the "s" of the plural, or a letter for it. -/
def IsSpelling (u : Word) (w : String) : Prop :=
  w = u.singularName ∨ w = u.singularName ++ "s" ∨ w ∈ u.letters

instance (u : Word) (w : String) : Decidable (u.IsSpelling w) :=
  inferInstanceAs (Decidable (_ ∨ _))

end Word

structure Component where
  unit : Word
  digits : List Char
  spaceBefore : Bool
  word : String
  spaceAfter : Bool
deriving DecidableEq

def space (present : Bool) : List Char :=
  if present then [' '] else []

namespace Component

def text (c : Component) : List Char :=
  c.digits ++ space c.spaceBefore ++ c.word.toList ++ space c.spaceAfter

/-- Seconds come last, so no space may follow them. -/
structure WellFormed (c : Component) : Prop where
  ne_nil : c.digits ≠ []
  isDigit : ∀ d ∈ c.digits, d.isDigit
  isSpelling : c.unit.IsSpelling c.word
  spaceAfter : c.unit = .seconds → c.spaceAfter = false

instance (c : Component) : Decidable c.WellFormed :=
  decidable_of_iff
    (c.digits ≠ [] ∧ c.digits.all Char.isDigit ∧ c.unit.IsSpelling c.word
      ∧ (c.unit = .seconds → c.spaceAfter = false))
    ⟨fun ⟨h₁, h₂, h₃, h₄⟩ => ⟨h₁, List.all_eq_true.mp h₂, h₃, h₄⟩,
      fun ⟨h₁, h₂, h₃, h₄⟩ => ⟨h₁, List.all_eq_true.mpr h₂, h₃, h₄⟩⟩

end Component

/-- The components make up the text. Each is of another of the `units`, in their order. -/
structure Decomposes (units : List Word) (cs : List Component) (text : List Char) : Prop where
  sublist : (cs.map Component.unit).Sublist units
  wellFormed : ∀ c ∈ cs, c.WellFormed
  text_eq : cs.flatMap Component.text = text

instance (units : List Word) (cs : List Component) (text : List Char) :
    Decidable (Decomposes units cs text) :=
  decidable_of_iff
    ((cs.map Component.unit).isSublist units ∧ cs.all (fun c => decide c.WellFormed)
      ∧ cs.flatMap Component.text = text)
    (by
      rw [List.isSublist_iff_sublist, List.all_eq_true]
      simp only [decide_eq_true_eq]
      exact ⟨fun ⟨h₁, h₂, h₃⟩ => ⟨h₁, h₂, h₃⟩, fun ⟨h₁, h₂, h₃⟩ => ⟨h₁, h₂, h₃⟩⟩)

def amountOf (u : Word) : List Component → Nat
  | [] => 0
  | c :: cs => if c.unit = u then decimalValue c.digits else amountOf u cs

/-- All numbers and the days of the weeks and days together make amounts. -/
structure InRange (cs : List Component) : Prop where
  digits : ∀ c ∈ cs, decimalValue c.digits ≤ 9223372036854775807
  days : 7 * amountOf .weeks cs + amountOf .days cs ≤ 9223372036854775807

def total (cs : List Component) : Span :=
  ofParts (Amount.clamp (amountOf .years cs)) (Amount.clamp (amountOf .months cs))
    (Amount.clamp (7 * amountOf .weeks cs + amountOf .days cs)) (Amount.clamp (amountOf .hours cs))
    (Amount.clamp (amountOf .minutes cs)) (Amount.clamp (amountOf .seconds cs))

end Span

end TimeMarkup
