/-!
This module contains the values of a TOML document and the rules by which its statements fill
tables. A table can be opened once, dotted keys can only extend tables that dotted keys have made,
and no key is set twice.
-/

namespace TimeMarkup

namespace Toml

inductive Origin where
  /-- A header of its own, or an element of an array of tables. -/
  | header
  /-- A header of a table inside of it. -/
  | path
  | dotted
  /-- Braces, which leave nothing to add. -/
  | braces
deriving DecidableEq

/-- Floats and dates are kept as they are written. -/
inductive Value where
  | text (s : String)
  | integer (n : Int)
  | float (literal : String)
  | boolean (b : Bool)
  | moment (literal : String)
  | array (items : List Value)
  | table (origin : Origin) (entries : List (String × Value))
  /-- An array of tables, one for each of its headers. -/
  | tables (elements : List (List (String × Value)))

abbrev Entries := List (String × Value)

namespace Entries

def insert? (key : String) (v : Value) (entries : Entries) : Option Entries :=
  if (entries.lookup key).isSome then none else some (entries ++ [(key, v)])

def replace (key : String) (v : Value) (entries : Entries) : Entries :=
  entries.map fun (k, old) => if k = key then (k, v) else (k, old)

/--
Follow a dotted key inside a table that has the given origin, and set its last part. What it passes
through must not have a header of its own, and where it ends must have been made by a dotted key.
-/
def insertDotted? (key : String) (v : Value) : List String → Origin → Entries → Option Entries
  | [], origin, entries => if origin = .dotted then insert? key v entries else none
  | k :: ks, _, entries =>
    match entries.lookup k with
    | none => do
      let inner ← insertDotted? key v ks .dotted []
      return entries ++ [(k, .table .dotted inner)]
    | some (.table .dotted inner) => do
      let inner ← insertDotted? key v ks .dotted inner
      return replace k (.table .dotted inner) entries
    | some (.table .path inner) => do
      let inner ← insertDotted? key v ks .path inner
      return replace k (.table .path inner) entries
    | some (.tables elements) =>
      match elements.getLast? with
      | some inner => do
        let inner ← insertDotted? key v ks .header inner
        return replace k (.tables (elements.dropLast ++ [inner])) entries
      | none => none
    | _ => none

def set? (path : List String) (key : String) (v : Value) (entries : Entries) : Option Entries :=
  if path = [] then insert? key v entries else insertDotted? key v path .header entries

/--
Change the table at a path. Tables that are missing on the way are made, and of an array of tables
the last one is meant.
-/
def change? (f : Entries → Option Entries) : List String → Entries → Option Entries
  | [], entries => f entries
  | k :: ks, entries =>
    match entries.lookup k with
    | none => do
      let inner ← change? f ks []
      return entries ++ [(k, .table .path inner)]
    | some (.table .braces _) => none
    | some (.table origin inner) => do
      let inner ← change? f ks inner
      return replace k (.table origin inner) entries
    | some (.tables elements) =>
      match elements.getLast? with
      | some inner => do
        let inner ← change? f ks inner
        return replace k (.tables (elements.dropLast ++ [inner])) entries
      | none => none
    | _ => none

/-- Open the table `key`. It may hold tables that were opened before it. -/
def openTable? (key : String) (entries : Entries) : Option Entries :=
  match entries.lookup key with
  | none => some (entries ++ [(key, .table .header [])])
  | some (.table .path inner) => some (replace key (.table .header inner) entries)
  | _ => none

def openElement? (key : String) (entries : Entries) : Option Entries :=
  match entries.lookup key with
  | none => some (entries ++ [(key, .tables [[]])])
  | some (.tables elements) => some (replace key (.tables (elements ++ [[]])) entries)
  | _ => none

end Entries

end Toml

end TimeMarkup
