import ServiceBootstrap.Toml.Draft
import ServiceBootstrap.Toml.Figure
import ServiceBootstrap.Toml.Moment
import ServiceBootstrap.Toml.Quotation

/-!
Reading documents.

A document is a sequence of lines: blank lines and comments, headers, and keys with their values.
Values may nest, and a key may have several parts, up to a limit. A value that is not a string, an
array or an inline table is one unbroken word; the single exception is a date with a blank between
it and the time.
-/

namespace ServiceBootstrap.Toml

/-- The depth from which on nested values, and the number of parts from which on keys, are
refused. -/
def limit : Nat := 80

def isKeyChar (c : Char) : Bool := c.isAlphanum || c = '_' || c = '-'

/-- One part of a key. -/
def keyPart? (cs : List Char) : Reading String :=
  match quotation? cs with
  | some (text, rest) => some (String.ofList text, rest)
  | none =>
    match cs.span isKeyChar with
    | ([], _) => none
    | (word, rest) => some (String.ofList word, rest)

/-- A key of fewer than the given number of parts, with blanks around each of them. -/
def key? : Nat → List Char → Reading (List String)
  | 0, _ => none
  | more + 1, cs =>
    match keyPart? (skipSpaces cs) with
    | none => none
    | some (part, rest) =>
      match skipSpaces rest with
      | '.' :: rest => (key? more rest).map fun (parts, rest) => (part :: parts, rest)
      | rest => some ([part], rest)

/-- Splits a key into its last part and the path to it. -/
def splitKey (parts : List String) : List String × String :=
  (parts.dropLast, parts.getLastD "")

def isWordChar (c : Char) : Bool :=
  c.isAlphanum || c = '+' || c = '-' || c = '_' || c = '.' || c = ':'

def isDateTail : List Char → Bool
  | ' ' :: c :: _ => c.isDigit
  | _ => false

/-- The word of a value, and what stands behind it. -/
def word (cs : List Char) : List Char × List Char :=
  let (first, rest) := cs.span isWordChar
  if (Moment.date? first).any (·.2.isEmpty) && isDateTail rest then
    let (second, rest) := (rest.drop 1).span isWordChar
    (first ++ ' ' :: second, rest)
  else (first, rest)

def wordValue? (w : List Char) : Option Tree :=
  if w = ['t', 'r', 'u', 'e'] then some (.boolean true)
  else if w = ['f', 'a', 'l', 's', 'e'] then some (.boolean false)
  else
    match moment? w with
    | some text => some (.datetime (String.ofList text))
    | none =>
      match integer? w with
      | some n => some (.integer n)
      | none => (float? w).map .float

/-- The rest of an array behind a bracket or a comma. The fuel bounds the number of items. -/
def items (value? : List Char → Reading Tree) :
    Nat → List Char → Option (List Tree × List Char)
  | 0, _ => none
  | fuel + 1, cs =>
    match skipLines false cs with
    | ']' :: rest => some ([], rest)
    | cs => do
      let (item, rest) ← value? cs
      match skipLines false rest with
      | ',' :: rest => do
        let (more, rest) ← items value? fuel rest
        return (item :: more, rest)
      | ']' :: rest => return ([item], rest)
      | _ => none

/-- A key with its value, as far as the value goes. -/
def pair? (value? : List Char → Reading Tree) (cs : List Char) :
    Option (((List String × String) × Tree) × List Char) := do
  let (parts, rest) ← key? (limit - 1) cs
  match rest with
  | '=' :: rest => do
    let (t, rest) ← value? (skipSpaces rest)
    return ((splitKey parts, t), rest)
  | _ => none

/-- The rest of an inline table before a key. The fuel bounds the number of keys. -/
def pairs (value? : List Char → Reading Tree) (es : DraftEntries) :
    Nat → List Char → Option (DraftEntries × List Char)
  | 0, _ => none
  | fuel + 1, cs => do
    let (((path, name), t), rest) ← pair? value? cs
    let es ← DraftEntries.insert path name (.value t) es
    match skipSpaces rest with
    | ',' :: rest => pairs value? es fuel rest
    | '}' :: rest => return (es, rest)
    | _ => none

def inlineTable? (value? : List Char → Reading Tree) (cs : List Char) : Reading Tree :=
  match skipSpaces cs with
  | '}' :: rest => some (.table [], rest)
  | cs => (pairs value? [] cs.length cs).map fun (es, rest) => (.table (treeEntries es), rest)

/-- A value that nests less deeply than the given number. -/
def value? : Nat → List Char → Reading Tree
  | depth, cs =>
    match string? cs with
    | some (text, rest) => some (.string (String.ofList text), rest)
    | none =>
      match depth, cs with
      | depth + 1, '[' :: cs =>
        (items (value? depth) (cs.length + 1) cs).map fun (ts, rest) => (.array ts, rest)
      | depth + 1, '{' :: cs => inlineTable? (value? depth) cs
      | _, cs => (wordValue? (word cs).1).map (·, (word cs).2)

/-- A document as far as it was read: the tables, and the one the last header opened. -/
structure Reader where
  root : DraftEntries
  current : List String

/-- Reads one header, with what stands on its line behind it. -/
def header? (r : Reader) (isItem : Bool) (cs : List Char) : Option (Reader × List Char) := do
  let (parts, rest) ← key? (limit - 1) cs
  let (path, name) := splitKey parts
  let rest ← match isItem, rest with
    | false, ']' :: rest => some rest
    | true, ']' :: ']' :: rest => some rest
    | _, _ => none
  let root ← if isItem then DraftEntries.openItem path name r.root
    else DraftEntries.openTable path name r.root
  return (⟨root, parts⟩, ← restOfLine? rest)

/-- Reads one line, whose blanks at the start are skipped. -/
def line? (r : Reader) (cs : List Char) : Option (Reader × List Char) :=
  match cs with
  | [] => none
  | '#' :: _ | '\n' :: _ | '\r' :: _ => (restOfLine? cs).map (r, ·)
  | '[' :: '[' :: cs => header? r true cs
  | '[' :: cs => header? r false cs
  | cs => do
    let (((path, name), t), rest) ← pair? (value? (limit - 1)) cs
    let root ← DraftEntries.change r.current (DraftEntries.insert path name (.value t)) r.root
    return (⟨root, r.current⟩, ← restOfLine? rest)

/-- Reads all lines. The fuel bounds their number. -/
def lines? : Nat → Reader → List Char → Option Reader
  | 0, _, _ => none
  | fuel + 1, r, cs =>
    match skipSpaces cs with
    | [] => some r
    | cs => (line? r cs).bind fun (r, rest) => lines? fuel r rest

/-- A byte order mark at the very start does not count. -/
def skipMark : List Char → List Char
  | '\ufeff' :: cs => cs
  | cs => cs

/-- The entries of a document, if it is one. -/
def parse? (cs : List Char) : Option Entries :=
  let cs := skipMark cs
  (lines? (cs.length + 1) ⟨[], []⟩ cs).map fun r => treeEntries r.root

end ServiceBootstrap.Toml
