import TimeMarkup.Span.Text
import TimeMarkup.Wire

/-!
This module contains the exchange form of spans: a record with one integer per unit. A reader also
takes the bare integers as a list, from years to nanoseconds.
-/

namespace TimeMarkup

namespace Span

def toWire (s : Span) : Wire :=
  .record (s.fields.map fun (name, amount) => (name, .integer amount.toInt))

def amountOfWire? : Wire → Option Amount
  | .integer n => Amount.ofInt? n
  | _ => none

/-- The amount under `name`. A missing one is zero, and one that is given twice is refused. -/
def entry? (entries : List (String × Wire)) (name : String) : Option Amount :=
  match entries.filter (·.1 = name) with
  | [] => some 0
  | [(_, w)] => amountOfWire? w
  | _ => none

def item? (items : List Wire) (i : Nat) : Option Amount :=
  match items[i]? with
  | none => some 0
  | some w => amountOfWire? w

/-- Read the exchange form. Amounts are carried, and entries with other names are ignored. -/
def ofWire? : Wire → Option Span
  | .record entries => do
    let s : Span :=
      { years := ← entry? entries "years"
        months := ← entry? entries "months"
        days := ← entry? entries "days"
        hours := ← entry? entries "hours"
        minutes := ← entry? entries "minutes"
        seconds := ← entry? entries "seconds"
        nanoseconds := ← entry? entries "nanoseconds" }
    return s.carry
  | .list items =>
    if 7 < items.length then
      none
    else do
      let s : Span :=
        { years := ← item? items 0
          months := ← item? items 1
          days := ← item? items 2
          hours := ← item? items 3
          minutes := ← item? items 4
          seconds := ← item? items 5
          nanoseconds := ← item? items 6 }
      return s.carry
  | _ => none

end Span

end TimeMarkup
