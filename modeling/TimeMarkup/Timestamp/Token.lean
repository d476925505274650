import TimeMarkup.Style
import TimeMarkup.Timestamp.Basic

/-!
This module contains markup tokens such as `<t:1481414119:f>`, which a reader's client shows as a
timestamp in its own zone and language.
-/

namespace TimeMarkup

def tokenText (seconds : Int) (style : Style) : String :=
  "<t:" ++ decimal seconds ++ ":" ++ style.code.toString ++ ">"

/-- The token for an instant, whose seconds are cut off toward the epoch. -/
def Instant.token (i : Instant) (style : Style) : String :=
  tokenText (epoch.elapsedTo i).seconds style

namespace Timestamp

/-- The token for a timestamp. Seconds need not lie in the range of instants. -/
def token (t : Timestamp) (style : Style) : Except Error String :=
  match t with
  | seconds n => .ok (tokenText n.toInt style)
  | epoch x => do
    let n ← (Binary64.ofFloat x).wholeSeconds
    return tokenText n.toInt style
  | t => do
    let i ← t.resolve
    return i.token style

def relativeToken (t : Timestamp) : Except Error String :=
  t.token .relative

end Timestamp

end TimeMarkup
