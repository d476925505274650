/-!
This module contains the decimal text of integers. The main statements say that the digits of a
number read back as that number and that nothing but digits is written.
-/

namespace TimeMarkup

def digits (n : Nat) : List Char :=
  Nat.toDigits 10 n

def ofDigits (cs : List Char) : Nat :=
  Nat.ofDigitChars 10 cs 0

@[simp]
theorem ofDigits_digits (n : Nat) : ofDigits (digits n) = n :=
  Nat.ofDigitChars_ten_toDigits

theorem isDigit_of_mem_digits {n : Nat} {c : Char} (h : c ∈ digits n) : c.isDigit :=
  Nat.isDigit_of_mem_toDigits (by omega) (by omega) h

def readNumber? (width : Nat) (cs : List Char) : Option (Nat × List Char) :=
  let ds := cs.take width
  if ds.length = width ∧ ds.all Char.isDigit then some (ofDigits ds, cs.drop width) else none

def decimal (n : Int) : String :=
  let magnitude := String.ofList (digits n.natAbs)
  if n < 0 then "-" ++ magnitude else magnitude

def padded (width n : Nat) : String :=
  let ds := digits n
  String.ofList (List.replicate (width - ds.length) '0' ++ ds)

end TimeMarkup
