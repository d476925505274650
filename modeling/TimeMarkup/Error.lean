import TimeMarkup.Binary64.Text
import TimeMarkup.Instant.Text
import TimeMarkup.Span.Text
import TimeMarkup.Text.Quoted

/-!
This module contains the causes for which a request is refused, and their wording.
-/

namespace TimeMarkup

inductive Error where
  | secondsOutOfRange (seconds : Amount)
  | epochOutOfRange (seconds : Binary64)
  | epochNotFinite (seconds : Binary64)
  | unreadableTimestamp (text : String)
  | spanOutOfRange (span : Span) (anchor : Instant)
  | unreadableSpan (text : String)
  | unknownStyle (text : String)
  | maxUnitsNotPositive
  | unreadableConfig
deriving DecidableEq

namespace Error

inductive Kind where
  | invalidArgument
  | parse
  | outOfRange
deriving DecidableEq

def kind : Error → Kind
  | secondsOutOfRange _ | epochOutOfRange _ | spanOutOfRange .. => .outOfRange
  | unreadableTimestamp _ => .parse
  | epochNotFinite _ | unreadableSpan _ | unknownStyle _ | maxUnitsNotPositive
  | unreadableConfig => .invalidArgument

def message : Error → String
  | secondsOutOfRange n => "time out of range: epoch seconds " ++ decimal n.toInt
  | epochOutOfRange x => "time out of range: epoch seconds " ++ x.text
  | epochNotFinite x => "epoch seconds must be finite, not " ++ x.text
  | unreadableTimestamp s => "invalid ISO 8601 timestamp: " ++ quoted s
  | spanOutOfRange span anchor =>
    "time out of range: " ++ span.listing ++ " applied to " ++ anchor.text
  | unreadableSpan s => "invalid duration: " ++ quoted s
  | unknownStyle s => "format can only be one of f, F, d, D, t, T, R, not " ++ quoted s
  | maxUnitsNotPositive => "max_units must be positive"
  | unreadableConfig => "invalid humanize config"

end Error

end TimeMarkup
