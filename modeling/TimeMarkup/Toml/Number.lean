import TimeMarkup.Text.Decimal
import TimeMarkup.Toml.Text

/-!
This module contains the numbers of a TOML document.
-/

namespace TimeMarkup

namespace Toml

/--
Read digits. An underscore can stand between any two of them. The flag tells whether a digit comes
right before the text.
-/
def digitRun (isDigit : Char → Bool) : Bool → List Char → List Char × List Char
  | afterDigit, '_' :: d :: cs =>
    if afterDigit && isDigit d then
      let (ds, rest) := digitRun isDigit true cs
      (d :: ds, rest)
    else
      ([], '_' :: d :: cs)
  | _, c :: cs =>
    if isDigit c then
      let (ds, rest) := digitRun isDigit true cs
      (c :: ds, rest)
    else
      ([], c :: cs)
  | _, [] => ([], [])

def digitRun? (isDigit : Char → Bool) (cs : List Char) : Option (List Char × List Char) :=
  match digitRun isDigit false cs with
  | ([], _) => none
  | run => some run

def sign : List Char → Bool × List Char
  | '-' :: cs => (true, cs)
  | '+' :: cs => (false, cs)
  | cs => (false, cs)

/-- Read a decimal number with an optional sign. A leading zero is its only digit. -/
def decimal? (cs : List Char) : Option ((Bool × List Char) × List Char) :=
  let (negative, cs) := sign cs
  match cs with
  | '0' :: rest => some ((negative, ['0']), rest)
  | _ => (digitRun? Char.isDigit cs).map fun (ds, rest) => ((negative, ds), rest)

def ofRadix (radix : Nat) (ds : List Char) : Nat :=
  ds.foldl (fun n c => radix * n + (hexDigit? c).getD 0) 0

def isRadixDigit (radix : Nat) (c : Char) : Bool :=
  match hexDigit? c with
  | some n => n < radix
  | none => false

def radix? (radix : Nat) (cs : List Char) : Option (Int × List Char) :=
  (digitRun? (isRadixDigit radix) cs).map fun (ds, rest) => (ofRadix radix ds, rest)

def integer? (cs : List Char) : Option (Int × List Char) := do
  let (n, rest) ← match cs with
    | '0' :: 'x' :: cs => radix? 16 cs
    | '0' :: 'o' :: cs => radix? 8 cs
    | '0' :: 'b' :: cs => radix? 2 cs
    | _ => (decimal? cs).map fun ((negative, ds), rest) =>
      (if negative then -(ofDigits ds : Int) else ofDigits ds, rest)
  if -9223372036854775808 ≤ n ∧ n < 9223372036854775808 then return (n, rest) else none

def fraction? : Reader (List Char)
  | '.' :: cs => digitRun? Char.isDigit cs
  | _ => none

def exponent? : Reader Int
  | c :: cs =>
    if c = 'e' ∨ c = 'E' then
      let (negative, cs) := sign cs
      (digitRun? Char.isDigit cs).map fun (ds, rest) =>
        (if negative then -(ofDigits ds : Int) else ofDigits ds, rest)
    else
      none
  | [] => none

/--
Whether `coefficient * 10 ^ exponent` is too large for a 64-bit floating-point number. The number of
digits settles this unless it is close to the largest one.
-/
def isTooLarge (coefficient : Nat) (exponent : Int) : Bool :=
  let magnitude := (digits coefficient).length + exponent
  if coefficient = 0 ∨ magnitude < 300 then false
  else if 320 < magnitude then true
  else (1 <<< 1024 - 1 <<< 970) * Nat.pow 10 (-exponent).toNat
    ≤ coefficient * Nat.pow 10 exponent.toNat

/-- Read a float with a fraction or an exponent. If it is positive it must not be too large. -/
def ordinaryFloat? (cs : List Char) : Option (List Char) := do
  let ((negative, whole), rest) ← decimal? cs
  let (places, afterPlaces) := (fraction? rest).getD ([], rest)
  let (exponent, afterExponent) := (exponent? afterPlaces).getD (0, afterPlaces)
  if afterExponent.length = rest.length then none
  else if !negative && isTooLarge (ofDigits (whole ++ places)) (exponent - places.length) then none
  else return afterExponent

def specialFloat? (cs : List Char) : Option (List Char) :=
  match (sign cs).2 with
  | 'i' :: 'n' :: 'f' :: rest => some rest
  | 'n' :: 'a' :: 'n' :: rest => some rest
  | _ => none

def float? (cs : List Char) : Option (String × List Char) :=
  (ordinaryFloat? cs <|> specialFloat? cs).map fun rest =>
    (String.ofList (cs.take (cs.length - rest.length)), rest)

end Toml

end TimeMarkup
