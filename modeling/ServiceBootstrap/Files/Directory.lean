import ServiceBootstrap.Files

/-!
A directory with everything below it, and the paths that lead into it.

A path is followed name by name. A name of a single dot stays where it is, one of two dots goes
back, and every name but the last has to lead to a directory. Outside of the directory there is
nothing but the directories that lead to it.
-/

namespace ServiceBootstrap

inductive Node where
  | file (bytes : List UInt8)
  | directory
  deriving DecidableEq, Repr

/-- The files and directories below a directory, by the names that lead to them. -/
structure Directory where
  /-- The path of the directory itself. -/
  path : String
  nodes : List (List String × Node)

namespace Directory

abbrev Place := List String

/-- What is at a place. Every place on the way to something is a directory. -/
def at? (d : Directory) (place : Place) : Option Node :=
  if place = [] then some .directory
  else
    match d.nodes.lookup place with
    | some node => some node
    | none => if d.nodes.any (place.isPrefixOf ·.1) then some .directory else none

def longestName : Nat := 255
def longestPath : Nat := 4095

/-- What names lead to, outside of the directory. -/
def outside (names : List String) : Except IoFailure (Place × Node) :=
  match names.find? (¬ ["", ".", ".."].contains ·) with
  | none => .ok ([], .directory)
  | some name =>
    .error (if longestName < name.utf8ByteSize then Files.nameTooLong else Files.notFound)

/-- Follows names from a place. -/
def follow (d : Directory) : Place → List String → Except IoFailure (Place × Node)
  | place, [] =>
    match d.at? place with
    | some node => .ok (place, node)
    | none => .error Files.notFound
  | place, name :: names =>
    match d.at? place with
    | none => .error Files.notFound
    | some (.file _) => .error Files.notADirectory
    | some .directory =>
      if longestName < name.utf8ByteSize then .error Files.nameTooLong
      else if name = "" ∨ name = "." then d.follow place names
      else if name = ".." then
        if place = [] then outside names else d.follow place.dropLast names
      else d.follow (place ++ [name]) names

/-- The part of a path behind the path of the directory, if it leads there. -/
def below? (d : Directory) (path : String) : Option String :=
  if path.startsWith (d.path ++ "/") then some (path.drop (d.path.length + 1)).toString
  else if path.startsWith "/" then none
  else some path

def resolve (d : Directory) (path : String) : Except IoFailure Node :=
  if path.any (· = '\x00') then .error Files.nulInName
  else if path = "" then .error Files.notFound
  else if longestPath < path.utf8ByteSize then .error Files.nameTooLong
  else
    let found := match d.below? path with
      | none => outside (path.splitOn "/")
      | some path => d.follow [] (path.splitOn "/")
    found.map (·.2)

def files (d : Directory) : Files where
  isFile path :=
    match d.resolve path with
    | .ok (.file _) => true
    | _ => false
  read path :=
    match d.resolve path with
    | .ok (.file bytes) => .ok bytes
    | .ok .directory => .error Files.isADirectory
    | .error e => .error e

end Directory

end ServiceBootstrap
