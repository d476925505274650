import TimeMarkup.Text.Extending
import TimeMarkup.Text.Unprintable

/-!
This module contains quoted text: text between quotes in which every character that could not be
told apart on paper is written as an escape.
-/

namespace TimeMarkup

/-- Letters that are drawn as nothing and only fill the place of a missing letter. -/
def fillers : List Char :=
  ['\u115F', '\u1160', '\u3164', '\uFFA0']

def inRanges (ranges : List (Nat × Nat)) (c : Char) : Bool :=
  ranges.any fun (first, last) => first ≤ c.toNat && c.toNat ≤ last

def isVisible (c : Char) : Bool :=
  !inRanges unprintableRanges c && !inRanges extendingRanges c && !fillers.contains c

def escapeCodePoint (c : Char) : List Char :=
  ['\\', 'u', '\x7b'] ++ Nat.toDigits 16 c.toNat ++ ['\x7d']

def escapeChar (c : Char) : List Char :=
  if c = '\x22' ∨ c = '\\' then ['\\', c]
  else if c = '\n' then ['\\', 'n']
  else if c = '\r' then ['\\', 'r']
  else if c = '\t' then ['\\', 't']
  else if c = '\x00' then ['\\', '0']
  else if isVisible c then [c]
  else escapeCodePoint c

def quoted (s : String) : String :=
  String.ofList ('\x22' :: s.toList.flatMap escapeChar ++ ['\x22'])

end TimeMarkup
