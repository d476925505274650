import TimeMarkup.Instant.Text

/-!
This module contains the notices that a request can leave behind beside its answer.
-/

namespace TimeMarkup

inductive Notice where
  | zoneAssumed (reading : Instant)
  | offsetAssumed (text : String)
  | spanTextMismatch (text : String)
  | unknownPrecision (precision : String)
  | expired (expiry now : Instant)
deriving DecidableEq

namespace Notice

inductive Level where
  | debug
  | trace
deriving DecidableEq

def level : Notice → Level
  | unknownPrecision _ => .trace
  | _ => .debug

def message : Notice → String
  | zoneAssumed _ => "naive datetime assumed to be UTC"
  | offsetAssumed _ => "timestamp without offset assumed to be UTC"
  | spanTextMismatch _ => "duration string does not match the grammar"
  | unknownPrecision _ => "precision names no unit, bounded by max_units only"
  | expired .. => "expiry has passed"

def fields : Notice → List (String × String)
  | zoneAssumed i => [("naive", i.localText)]
  | offsetAssumed s => [("input", s)]
  | spanTextMismatch s => [("input", s)]
  | unknownPrecision s => [("precision", s)]
  | expired expiry now => [("expiry", expiry.text), ("now", now.text)]

end Notice

end TimeMarkup
