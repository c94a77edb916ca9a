import ServiceBootstrap.Toml.Tree

/-!
Tables while a document is read.

A table remembers how it came to be, because that decides what may still be said about it: a
table with a header of its own cannot get a second one, a table that only came up in the header of
another still can, and a table that came up in a dotted key can be added to by dotted keys alone.
Whatever is written as one value is finished once it is read.
-/

namespace ServiceBootstrap.Toml

inductive Origin where
  /-- It has a header, or is the document itself. -/
  | header
  /-- It came up on the way to another table. -/
  | implied
  /-- It came up in a dotted key. -/
  | dotted
  deriving DecidableEq, Repr

inductive Draft where
  | value (t : Tree)
  | table (origin : Origin) (entries : List (String × Draft))
  /-- Tables in an array, each with a header of its own. -/
  | tables (items : List (List (String × Draft)))

abbrev DraftEntries := List (String × Draft)

mutual

def Draft.tree : Draft → Tree
  | .value t => t
  | .table _ entries => .table (treeEntries entries)
  | .tables items => .array (treeItems items)

/-- The finished entries of a table. -/
def treeEntries : DraftEntries → Entries
  | [] => []
  | (name, d) :: entries => (name, d.tree) :: treeEntries entries

def treeItems : List DraftEntries → List Tree
  | [] => []
  | entries :: items => .table (treeEntries entries) :: treeItems items

end

namespace DraftEntries

/-- Puts an entry in the place of one of the same name, else at the end. -/
def put (name : String) (d : Draft) : DraftEntries → DraftEntries
  | [] => [(name, d)]
  | e :: es => if e.1 = name then (name, d) :: es else e :: put name d es

/-- Changes the last of several items. -/
def changeLast {α : Type} (f : α → Option α) : List α → Option (List α)
  | [] => none
  | [a] => (f a).map ([·])
  | a :: as => (changeLast f as).map (a :: ·)

/-- How a path is followed: by the dots of a key, or by those of a header. -/
inductive Way where
  | key
  | header
  deriving DecidableEq, Repr

def Way.origin : Way → Origin
  | key => .dotted
  | header => .implied

/-- Follows a path to a table and changes that; tables that are missing on the path come up. In an
array of tables the path goes on in the last one. A key cannot lead through a table with a header
of its own. -/
def follow (way : Way) (f : Origin → DraftEntries → Option DraftEntries) :
    List String → Origin → DraftEntries → Option DraftEntries
  | [], origin, es => f origin es
  | name :: path, _, es =>
    match es.lookup name with
    | none => do
      return put name (.table way.origin (← follow way f path way.origin [])) es
    | some (.value _) => none
    | some (.tables items) => do
      return put name (.tables (← changeLast (follow way f path .header) items)) es
    | some (.table origin inner) =>
      if way = .key ∧ origin = .header then none
      else do return put name (.table origin (← follow way f path origin inner)) es

/-- Puts a value under a dotted key. All but the last part of the key name tables that came up in
dotted keys. -/
def insert (path : List String) (name : String) (d : Draft) (es : DraftEntries) :
    Option DraftEntries :=
  follow .key (fun origin es =>
    if (origin = .dotted ↔ path ≠ []) ∧ (es.lookup name).isNone then some (es ++ [(name, d)])
    else none) path .header es

/-- Opens a table by its header; a table that only came up before moves to the end. -/
def openTable (path : List String) (name : String) (es : DraftEntries) : Option DraftEntries :=
  follow .header (fun _ es =>
    match es.lookup name with
    | none => some (es ++ [(name, .table .header [])])
    | some (.table .implied inner) =>
      some (es.filter (·.1 != name) ++ [(name, .table .header inner)])
    | some _ => none) path .header es

/-- Opens the next table of an array of tables. -/
def openItem (path : List String) (name : String) (es : DraftEntries) : Option DraftEntries :=
  follow .header (fun _ es =>
    match es.lookup name with
    | none => some (es ++ [(name, .tables [[]])])
    | some (.tables items) => some (put name (.tables (items ++ [[]])) es)
    | some _ => none) path .header es

/-- Changes the table that a header opened. -/
def change (path : List String) (f : DraftEntries → Option DraftEntries) (es : DraftEntries) :
    Option DraftEntries :=
  follow .header (fun _ es => f es) path .header es

end DraftEntries

end ServiceBootstrap.Toml
