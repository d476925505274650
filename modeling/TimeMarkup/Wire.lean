/-!
This module contains the values of a self-describing data format, the common ground of the formats
in which spans and styles are exchanged.
-/

namespace TimeMarkup

inductive Wire where
  | null
  | boolean (b : Bool)
  | integer (n : Int)
  | fraction
  | text (s : String)
  | list (items : List Wire)
  | record (entries : List (String × Wire))
deriving Inhabited

end TimeMarkup
