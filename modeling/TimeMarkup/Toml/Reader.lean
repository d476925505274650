import TimeMarkup.Toml.Moment
import TimeMarkup.Toml.Number
import TimeMarkup.Toml.Value

/-!
This module contains the reader of TOML documents.
-/

namespace TimeMarkup

namespace Toml

def scalar? (cs : List Char) : Option (Value × List Char) :=
  match cs with
  | 't' :: 'r' :: 'u' :: 'e' :: rest => some (.boolean true, rest)
  | 'f' :: 'a' :: 'l' :: 's' :: 'e' :: rest => some (.boolean false, rest)
  | _ =>
    (string? cs).map (fun (s, rest) => (.text (String.ofList s), rest))
      <|> (moment? cs).map (fun (s, rest) => (.moment s, rest))
      <|> (float? cs).map (fun (s, rest) => (.float s, rest))
      <|> (integer? cs).map (fun (n, rest) => (.integer n, rest))

/--
Read the items of an array up to its closing bracket. Each item takes at least one character, so the
length of the text is enough fuel.
-/
def items? (value? : Reader Value) : Nat → Reader (List Value)
  | 0, _ => none
  | fuel + 1, cs => do
    let cs ← gap? cs
    match cs with
    | ']' :: rest => return ([], rest)
    | _ =>
      let (v, rest) ← value? cs
      match ← gap? rest with
      | ',' :: rest =>
        let (vs, rest) ← items? value? fuel rest
        return (v :: vs, rest)
      | ']' :: rest => return ([v], rest)
      | _ => none

def pairs? (value? : Reader Value) : Nat → Entries → Reader Entries
  | 0, _, _ => none
  | fuel + 1, entries, cs => do
    let ((path, key), rest) ← key? cs
    let '=' :: rest := rest | none
    let (v, rest) ← value? (dropBlanks rest)
    let entries ← entries.set? path key v
    match dropBlanks rest with
    | ',' :: rest => pairs? value? fuel entries rest
    | '}' :: rest => return (entries, rest)
    | _ => none

def value? : Nat → Reader Value
  | 0, cs => scalar? cs
  | depth + 1, cs =>
    match cs with
    | '[' :: rest =>
      (items? (value? depth) rest.length rest).map fun (vs, rest) => (.array vs, rest)
    | '{' :: rest =>
      match dropBlanks rest with
      | '}' :: rest => some (.table .braces [], rest)
      | rest =>
        (pairs? (value? depth) rest.length [] rest).map fun (entries, rest) =>
          (.table .braces entries, rest)
    | _ => scalar? cs

/-- The entries of a document so far, and the table that is open. -/
structure Document where
  root : Entries
  path : List String

namespace Document

def set? (d : Document) (path : List String) (key : String) (v : Value) : Option Document := do
  return { d with root := ← d.root.change? (Entries.set? path key v) d.path }

def openTable? (path : List String) (key : String) (d : Document) : Option Document := do
  return ⟨← d.root.change? (Entries.openTable? key) path, path ++ [key]⟩

def openElement? (path : List String) (key : String) (d : Document) : Option Document := do
  return ⟨← d.root.change? (Entries.openElement? key) path, path ++ [key]⟩

end Document

def statement? (d : Document) (cs : List Char) : Option (Document × List Char) := do
  match cs with
  | '[' :: '[' :: rest =>
    let ((path, key), rest) ← key? rest
    let ']' :: ']' :: rest := rest | none
    let rest ← lineEnd? rest
    return (← d.openElement? path key, rest)
  | '[' :: rest =>
    let ((path, key), rest) ← key? rest
    let ']' :: rest := rest | none
    let rest ← lineEnd? rest
    return (← d.openTable? path key, rest)
  | _ =>
    let ((path, key), rest) ← key? cs
    let '=' :: rest := rest | none
    let (v, rest) ← value? maxDepth (dropBlanks rest)
    let rest ← lineEnd? rest
    return (← d.set? path key v, rest)

def statements? : Nat → Document → List Char → Option Document
  | 0, _, _ => none
  | fuel + 1, d, cs =>
    match dropBlanks cs with
    | [] => some d
    | c :: rest =>
      if c = '#' ∨ c = '\n' ∨ c = '\r' then do
        statements? fuel d (← lineEnd? (c :: rest))
      else do
        let (d, rest) ← statement? d (c :: rest)
        statements? fuel d rest

/-- Read a document. A byte order mark in front of it is ignored. -/
def read? (s : String) : Option Entries :=
  let cs := match s.toList with
    | '\uFEFF' :: cs => cs
    | cs => cs
  (statements? (cs.length + 1) ⟨[], []⟩ cs).map Document.root

end Toml

end TimeMarkup
