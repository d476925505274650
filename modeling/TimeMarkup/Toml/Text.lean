import TimeMarkup.Toml.Space

/-!
This module contains the strings and keys of a TOML document.
-/

namespace TimeMarkup

namespace Toml

def hexDigit? (c : Char) : Option Nat :=
  if c.isDigit then some (c.toNat - '0'.toNat)
  else if 'a' ≤ c ∧ c ≤ 'f' then some (c.toNat - 'a'.toNat + 10)
  else if 'A' ≤ c ∧ c ≤ 'F' then some (c.toNat - 'A'.toNat + 10)
  else none

def codePoint? (ds : List Char) : Option Char := do
  let n ← ds.foldlM (fun n c => (hexDigit? c).map (16 * n + ·)) 0
  if n.isValidChar then some (Char.ofNat n) else none

def escaped? (c : Char) : Option Char :=
  if c = 'b' then some '\x08'
  else if c = 't' then some '\t'
  else if c = 'n' then some '\n'
  else if c = 'f' then some '\x0C'
  else if c = 'r' then some '\r'
  else if c = '\x22' ∨ c = '\\' then some c
  else none

def basic? : Reader (List Char)
  | [] => none
  | '\x22' :: cs => some ([], cs)
  | '\\' :: 'u' :: a :: b :: c :: d :: cs => do
    let first ← codePoint? [a, b, c, d]
    let (s, rest) ← basic? cs
    return (first :: s, rest)
  | '\\' :: 'U' :: a :: b :: c :: d :: e :: f :: g :: h :: cs => do
    let first ← codePoint? [a, b, c, d, e, f, g, h]
    let (s, rest) ← basic? cs
    return (first :: s, rest)
  | '\\' :: c :: cs => do
    let first ← escaped? c
    let (s, rest) ← basic? cs
    return (first :: s, rest)
  | c :: cs =>
    if isPlain c && c ≠ '\\' then (basic? cs).map fun (s, rest) => (c :: s, rest) else none

def literal? (cs : List Char) : Option (List Char × List Char) :=
  let isInside (c : Char) := isPlain c && c ≠ '\x27'
  match cs.dropWhile isInside with
  | '\x27' :: rest => some (cs.takeWhile isInside, rest)
  | _ => none

/-- What a backslash at the end of a line does to the text after it. -/
inductive Fold where
  | none
  /-- The backslash was followed by blanks, and the end of the line has to follow. -/
  | pending
  | dropping

/--
Read a string of several lines with escapes, up to the three quotes that end it. The string can end
in one or two quotes of its own.
-/
def multiBasic? : Fold → Reader (List Char)
  | .pending, '\n' :: cs => multiBasic? .dropping cs
  | .pending, '\r' :: '\n' :: cs => multiBasic? .dropping cs
  | .pending, c :: cs => if isBlank c then multiBasic? .pending cs else none
  | .pending, [] => none
  | .dropping, '\n' :: cs => multiBasic? .dropping cs
  | .dropping, '\r' :: '\n' :: cs => multiBasic? .dropping cs
  | .dropping, ' ' :: cs => multiBasic? .dropping cs
  | .dropping, '\t' :: cs => multiBasic? .dropping cs
  | _, [] => none
  | _, '\x22' :: '\x22' :: '\x22' :: '\x22' :: '\x22' :: cs => some (['\x22', '\x22'], cs)
  | _, '\x22' :: '\x22' :: '\x22' :: '\x22' :: cs => some (['\x22'], cs)
  | _, '\x22' :: '\x22' :: '\x22' :: cs => some ([], cs)
  | _, '\\' :: '\n' :: cs => multiBasic? .dropping cs
  | _, '\\' :: '\r' :: '\n' :: cs => multiBasic? .dropping cs
  | _, '\\' :: ' ' :: cs => multiBasic? .pending cs
  | _, '\\' :: '\t' :: cs => multiBasic? .pending cs
  | _, '\\' :: 'u' :: a :: b :: c :: d :: cs => do
    let first ← codePoint? [a, b, c, d]
    let (s, rest) ← multiBasic? .none cs
    return (first :: s, rest)
  | _, '\\' :: 'U' :: a :: b :: c :: d :: e :: f :: g :: h :: cs => do
    let first ← codePoint? [a, b, c, d, e, f, g, h]
    let (s, rest) ← multiBasic? .none cs
    return (first :: s, rest)
  | _, '\\' :: c :: cs => do
    let first ← escaped? c
    let (s, rest) ← multiBasic? .none cs
    return (first :: s, rest)
  | _, '\n' :: cs => (multiBasic? .none cs).map fun (s, rest) => ('\n' :: s, rest)
  | _, '\r' :: '\n' :: cs => (multiBasic? .none cs).map fun (s, rest) => ('\n' :: s, rest)
  | _, c :: cs =>
    if isPlain c && c ≠ '\\' then (multiBasic? .none cs).map fun (s, rest) => (c :: s, rest)
    else none

def multiLiteral? : Reader (List Char)
  | '\x27' :: '\x27' :: '\x27' :: '\x27' :: '\x27' :: cs => some (['\x27', '\x27'], cs)
  | '\x27' :: '\x27' :: '\x27' :: '\x27' :: cs => some (['\x27'], cs)
  | '\x27' :: '\x27' :: '\x27' :: cs => some ([], cs)
  | '\n' :: cs => (multiLiteral? cs).map fun (s, rest) => ('\n' :: s, rest)
  | '\r' :: '\n' :: cs => (multiLiteral? cs).map fun (s, rest) => ('\n' :: s, rest)
  | c :: cs =>
    if isPlain c then (multiLiteral? cs).map fun (s, rest) => (c :: s, rest) else none
  | [] => none

/-- A line end right after the opening quotes does not count. -/
def dropFirstNewline (cs : List Char) : List Char :=
  (newline? cs).getD cs

def string? : Reader (List Char)
  | '\x22' :: '\x22' :: '\x22' :: cs => multiBasic? .none (dropFirstNewline cs)
  | '\x22' :: cs => basic? cs
  | '\x27' :: '\x27' :: '\x27' :: cs => multiLiteral? (dropFirstNewline cs)
  | '\x27' :: cs => literal? cs
  | _ => none

def isBareKeyChar (c : Char) : Bool :=
  c.isAlphanum || c = '_' || c = '-'

def keyPart? (cs : List Char) : Option (String × List Char) :=
  match cs with
  | '\x22' :: rest => (basic? rest).map fun (s, rest) => (String.ofList s, rest)
  | '\x27' :: rest => (literal? rest).map fun (s, rest) => (String.ofList s, rest)
  | _ =>
    let name := cs.takeWhile isBareKeyChar
    if name = [] then none else some (String.ofList name, cs.dropWhile isBareKeyChar)

def keyParts? : Nat → Reader (List String)
  | 0, _ => none
  | room + 1, cs => do
    let (part, rest) ← keyPart? (dropBlanks cs)
    match dropBlanks rest with
    | '.' :: rest =>
      let (parts, rest) ← keyParts? room rest
      return (part :: parts, rest)
    | rest => return ([part], rest)

/-- Bound on the parts of a key and the depth of a value. -/
def maxDepth : Nat := 79

/-- Read a key: the parts on the way to it, and its last part. -/
def key? (cs : List Char) : Option ((List String × String) × List Char) := do
  let (parts, rest) ← keyParts? maxDepth cs
  match parts.getLast? with
  | some last => return ((parts.dropLast, last), rest)
  | none => none

end Toml

end TimeMarkup
