import TimeMarkup.Error
import TimeMarkup.Wire

/-!
This module contains the styles in which a reader's client shows a timestamp.
-/

namespace TimeMarkup

inductive Style where
  | dateTime
  | dayTime
  | dateShort
  | date
  | time
  | timeSeconds
  | relative
deriving DecidableEq

namespace Style

def all : List Style :=
  [dateTime, dayTime, dateShort, date, time, timeSeconds, relative]

instance : Inhabited Style where
  default := dateTime

def code : Style → Char
  | dateTime => 'f'
  | dayTime => 'F'
  | dateShort => 'd'
  | date => 'D'
  | time => 't'
  | timeSeconds => 'T'
  | relative => 'R'

def name : Style → String
  | dateTime => "date_time"
  | dayTime => "day_time"
  | dateShort => "date_short"
  | date => "date"
  | time => "time"
  | timeSeconds => "time_seconds"
  | relative => "relative"

def ofText (s : String) : Except Error Style :=
  match all.find? fun style => s = style.name ∨ s.toList = [style.code] with
  | some style => .ok style
  | none => .error (.unknownStyle s)

def ofName? (s : String) : Option Style :=
  all.find? fun style => s = style.name

def toWire (style : Style) : Wire :=
  .text style.name

/-- Read the exchange form, a bare name or a record with the name as its only, empty entry. -/
def ofWire? : Wire → Option Style
  | .text s => ofName? s
  | .record [(s, .null)] => ofName? s
  | _ => none

end Style

end TimeMarkup
