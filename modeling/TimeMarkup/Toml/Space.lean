/-!
This module contains what stands between the words of a TOML document: blanks, line ends and
comments.
-/

namespace TimeMarkup

namespace Toml

/-- A reader takes a value off the front of a text. -/
abbrev Reader (α : Type) := List Char → Option (α × List Char)

def isBlank (c : Char) : Bool :=
  c = ' ' || c = '\t'

/-- Characters that may stand in comments and strings: all but controls other than the tab. -/
def isPlain (c : Char) : Bool :=
  c = '\t' || (32 ≤ c.toNat && c.toNat ≠ 127)

def dropBlanks (cs : List Char) : List Char :=
  cs.dropWhile isBlank

def newline? : List Char → Option (List Char)
  | '\n' :: cs => some cs
  | '\r' :: '\n' :: cs => some cs
  | _ => none

def lineEnd? (cs : List Char) : Option (List Char) :=
  let cs := match dropBlanks cs with
    | '#' :: cs => cs.dropWhile isPlain
    | cs => cs
  if cs = [] then some [] else newline? cs

def gap? : List Char → Option (List Char) :=
  go false
where
  go : Bool → List Char → Option (List Char)
    | _, '\n' :: cs => go false cs
    | _, '\r' :: '\n' :: cs => go false cs
    | true, c :: cs => if isPlain c then go true cs else none
    | true, [] => none
    | false, '#' :: cs => go true cs
    | false, '\r' :: _ => none
    | false, c :: cs => if isBlank c then go false cs else some (c :: cs)
    | false, [] => some []

end Toml

end TimeMarkup
