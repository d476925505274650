/-!
This module contains the value of a binary floating-point number, read off its 64 bits.
-/

namespace TimeMarkup

/-- A finite number is `significand * 2 ^ exponent`, with a sign. -/
inductive Binary64 where
  | nan
  | infinite (negative : Bool)
  | finite (negative : Bool) (significand : Nat) (exponent : Int)
deriving DecidableEq

namespace Binary64

def ofBits (bits : UInt64) : Binary64 :=
  let n := bits.toNat
  let negative : Bool := 9223372036854775808 ≤ n
  let biased : Nat := n / 4503599627370496 % 2048
  let stored : Nat := n % 4503599627370496
  if biased = 2047 then
    if stored = 0 then .infinite negative else .nan
  else if biased = 0 then
    .finite negative stored (-1074)
  else
    .finite negative (4503599627370496 + stored) (biased - 1075)

def ofFloat (x : Float) : Binary64 :=
  ofBits x.toBits

def signed (negative : Bool) (n : Nat) : Int :=
  if negative then -n else n

def wholePart (significand : Nat) (exponent : Int) : Nat :=
  (significand <<< exponent.toNat) >>> (-exponent).toNat

/-- The fraction of `significand * 2 ^ exponent`, as a multiple of `2 ^ exponent`. -/
def fractionPart (significand : Nat) (exponent : Int) : Nat :=
  significand % (1 <<< (-exponent).toNat)

/-- The number with 53 significant bits nearest to `n`, of two the one with an even significand. -/
def nearest (n : Nat) : Nat :=
  let unit := 1 <<< (n.log2 - 52)
  let quotient := n / unit
  let rest := 2 * (n % unit)
  if unit < rest ∨ (unit = rest ∧ quotient % 2 = 1) then (quotient + 1) * unit
  else quotient * unit

def roundHalfUp (n d : Nat) : Nat :=
  (2 * n + d) / (2 * d)

/--
The fraction of `significand * 2 ^ exponent` in billionths. The product with a billion is rounded to
the nearest floating-point number before it is rounded to an integer.
-/
def billionths (significand : Nat) (exponent : Int) : Nat :=
  roundHalfUp (nearest (fractionPart significand exponent * 1000000000)) (1 <<< (-exponent).toNat)

end Binary64

end TimeMarkup
