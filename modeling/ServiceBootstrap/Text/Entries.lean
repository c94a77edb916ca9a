/-!
Descriptions of a list of named entries, on one line or with one entry a line.

Names and contents come in as they are to be shown.
-/

namespace ServiceBootstrap.Text

abbrev Entries := List (String × String)

namespace Entries

def entry (e : String × String) : String := e.1 ++ ": " ++ e.2

/-- All entries on one line, with a comma and a space between them. -/
def inline (es : Entries) : String :=
  "\x7b" ++ String.intercalate ", " (es.map entry) ++ "\x7d"

/-- One entry a line, indented by four spaces and followed by a comma. -/
def stacked : Entries → String
  | [] => "\x7b\x7d"
  | es => "\x7b\n" ++ String.join (es.map fun e => "    " ++ entry e ++ ",\n") ++ "\x7d"

end Entries

end ServiceBootstrap.Text
