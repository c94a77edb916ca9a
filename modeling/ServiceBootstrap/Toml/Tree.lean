import ServiceBootstrap.Number.Binary64

/-!
What a TOML document says, without the way it is written.

Tables keep their entries in the order of the document, and no table has two entries of one name.
Dates and times are kept as normalized text.
-/

namespace ServiceBootstrap.Toml

inductive Tree where
  | string (s : String)
  | integer (n : Int64)
  | float (x : Binary64)
  | boolean (b : Bool)
  | datetime (text : String)
  | array (items : List Tree)
  | table (entries : List (String × Tree))
  deriving Repr, Inhabited

abbrev Entries := List (String × Tree)

end ServiceBootstrap.Toml
