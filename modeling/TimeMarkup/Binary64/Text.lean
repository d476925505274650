import TimeMarkup.Binary64.Basic
import TimeMarkup.Decimal.Shortest

/-!
This module contains the text of a floating-point number: the fewest digits that read back,
always in positional notation.
-/

namespace TimeMarkup

namespace Binary64

def text : Binary64 → String
  | .nan => "NaN"
  | .infinite negative => if negative then "-inf" else "inf"
  | .finite negative significand exponent =>
    (if negative then "-" else "") ++ (Decimal.shortest significand exponent).positional

end Binary64

end TimeMarkup
