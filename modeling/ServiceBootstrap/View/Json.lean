import ServiceBootstrap.Json.Written
import ServiceBootstrap.View.Toml

/-!
A view as a JSON object, with each member and each item on a line of its own, indented by two
spaces for each level.
-/

namespace ServiceBootstrap

/-- Parts on lines of their own between brackets, at the given indentation. -/
def bracketed (indent : Nat) (first last : Char) (parts : List (List Char)) : List Char :=
  match parts with
  | [] => [first, last]
  | parts =>
    let inner := '\n' :: List.replicate (indent + 2) ' '
    first :: inner ++ separated (',' :: inner) parts ++
      '\n' :: List.replicate indent ' ' ++ [last]

namespace Member

def json : Member → List Char
  | text s => Json.writeString s.toList
  | number n => decimal n
  | texts ss => bracketed 2 '[' ']' (ss.map fun s => Json.writeString s.toList)

end Member

def jsonLine (m : String × Member) : List Char :=
  Json.writeString m.1.toList ++ [':', ' '] ++ m.2.json

def View.json (v : View) : List Char :=
  bracketed 0 '\x7b' '\x7d' (v.members.map jsonLine) ++ ['\n']

end ServiceBootstrap
