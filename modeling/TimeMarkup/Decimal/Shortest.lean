import TimeMarkup.Text.Decimal

/-!
This module contains the shortest decimal of a binary floating-point number: of the decimals that
round to the number, the one with the fewest digits, and of those the nearest.
-/

namespace TimeMarkup

structure Decimal where
  coefficient : Nat
  exponent : Int
deriving DecidableEq

namespace Decimal

/--
Bounds of the numbers that round to a number, in units of `1 / scale`. The bounds themselves round
to it iff `closed` is set.
-/
structure Interval where
  low : Nat
  value : Nat
  high : Nat
  scale : Nat
  closed : Bool

/--
The interval of `significand * 2 ^ exponent`. Its bounds lie halfway to the neighbours, and below a
power of two the neighbour is twice as close.
-/
def Interval.around (significand : Nat) (exponent : Int) : Interval :=
  let unit := 1 <<< (exponent - 2).toNat
  let gap := if significand = 4503599627370496 ∧ -1074 < exponent then 1 else 2
  { low := (4 * significand - gap) * unit
    value := 4 * significand * unit
    high := (4 * significand + 2) * unit
    scale := 1 <<< (2 - exponent).toNat
    closed := significand % 2 = 0 }

def Interval.contains (i : Interval) (n d : Nat) : Bool :=
  if i.closed then i.low * d ≤ n && n ≤ i.high * d
  else i.low * d < n && n < i.high * d

/--
The coefficient of the multiple of `10 ^ exponent` in the interval that is nearest to its value, a
tie going up. Only the two multiples next to the value need a look.
-/
def Interval.multiple? (i : Interval) (exponent : Int) : Option Nat :=
  let step := i.scale * Nat.pow 10 exponent.toNat
  let d := Nat.pow 10 (-exponent).toNat
  let below := i.value * d / step
  let rest := i.value * d - below * step
  if i.contains (below * step) d ∧ (2 * rest < step ∨ ¬ i.contains ((below + 1) * step) d) then
    some below
  else if i.contains ((below + 1) * step) d then
    some (below + 1)
  else
    none

/-- The coarsest grid of multiples of a power of ten that meets the interval gives the digits. -/
def shortest (significand : Nat) (exponent : Int) : Decimal :=
  if significand = 0 then ⟨0, 0⟩ else go (Interval.around significand exponent) 652
where
  go (i : Interval) : Nat → Decimal
    | 0 => ⟨0, 0⟩
    | n + 1 =>
      match i.multiple? (n - 342) with
      | some coefficient => ⟨coefficient, n - 342⟩
      | none => go i n

def positional (d : Decimal) : String :=
  let ds := digits d.coefficient
  let places := (-d.exponent).toNat
  let ds := List.replicate (places + 1 - ds.length) '0' ++ ds
    ++ List.replicate d.exponent.toNat '0'
  if places = 0 then String.ofList ds
  else String.ofList (ds.take (ds.length - places) ++ '.' :: ds.drop (ds.length - places))

end Decimal

end TimeMarkup
