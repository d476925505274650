import TimeMarkup.Span.Describe
import TimeMarkup.Toml.Reader

/-!
This module contains the settings for describing spans, which can come from a TOML document.
-/

namespace TimeMarkup

structure Config where
  precision : String
  maxUnits : Int
deriving DecidableEq

namespace Config

instance : Inhabited Config where
  default := ⟨"seconds", 6⟩

def validate (c : Config) : Except Error Config :=
  if c.maxUnits ≤ 0 then .error .maxUnitsNotPositive else .ok c

def textEntry? (entries : Toml.Entries) (key missing : String) : Option String :=
  match entries.lookup key with
  | none => some missing
  | some (.text s) => some s
  | some _ => none

/-- The integer of at most 32 bits under a key, or `missing` if there is none. -/
def integerEntry? (entries : Toml.Entries) (key : String) (missing : Int) : Option Int :=
  match entries.lookup key with
  | none => some missing
  | some (.integer n) => if -2147483648 ≤ n ∧ n < 2147483648 then some n else none
  | some _ => none

/-- The settings of a document. Missing ones have their default, and other keys are ignored. -/
def ofEntries? (entries : Toml.Entries) : Option Config := do
  let precision ← textEntry? entries "precision" (default : Config).precision
  let maxUnits ← integerEntry? entries "max_units" (default : Config).maxUnits
  return ⟨precision, maxUnits⟩

def ofToml (s : String) : Except Error Config :=
  match (Toml.read? s).bind ofEntries? with
  | some c => c.validate
  | none => .error .unreadableConfig

def describe (c : Config) (s : Span) : Except Error String :=
  s.describe c.precision c.maxUnits

end Config

end TimeMarkup
