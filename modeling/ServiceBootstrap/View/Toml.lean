import ServiceBootstrap.Toml.Written
import ServiceBootstrap.View

/-!
A view as a TOML document: one line for each member, with an array on its line.
-/

namespace ServiceBootstrap

/-- Puts a separator between the parts of a text. -/
def separated (separator : List Char) : List (List Char) → List Char
  | [] => []
  | [part] => part
  | part :: parts => part ++ separator ++ separated separator parts

def decimal (n : Int32) : List Char := (toString n.toInt).toList

namespace Member

def toml : Member → List Char
  | text s => Toml.writeString s.toList
  | number n => decimal n
  | texts ss => '[' :: separated [',', ' '] (ss.map fun s => Toml.writeString s.toList) ++ [']']

end Member

def tomlLine (m : String × Member) : List Char :=
  m.1.toList ++ [' ', '=', ' '] ++ m.2.toml ++ ['\n']

def View.toml (v : View) : List Char := v.members.flatMap tomlLine

end ServiceBootstrap
