import ServiceBootstrap.Toml.Space

/-!
Reading strings.

A basic string has escapes, a literal string has none. Both exist on one line, and between tripled
quotes on several lines; there a line end right behind the opening quotes does not count, line
ends are read as line feeds, and a backslash at the end of a line drops all blanks and line ends
behind it. Each reader starts behind the opening quotes and gives the text and what is left.
-/

namespace ServiceBootstrap.Toml

abbrev Reading (α : Type) := Option (α × List Char)

def prepend (c : Char) : Reading (List Char) → Reading (List Char) :=
  Option.map fun (text, rest) => (c :: text, rest)

def hexDigit? (c : Char) : Option Nat :=
  if '0' ≤ c ∧ c ≤ '9' then some (c.toNat - '0'.toNat)
  else if 'a' ≤ c ∧ c ≤ 'f' then some (c.toNat - 'a'.toNat + 10)
  else if 'A' ≤ c ∧ c ≤ 'F' then some (c.toNat - 'A'.toNat + 10)
  else none

def hexNumber? (ds : List Char) : Option Nat :=
  ds.foldlM (fun n d => (hexDigit? d).map (16 * n + ·)) 0

/-- The character whose code point the digits spell. -/
def scalar? (ds : List Char) : Option Char :=
  (hexNumber? ds).bind fun n => if n.isValidChar then some (Char.ofNat n) else none

/-- What the character behind a backslash stands for. -/
def escaped? (c : Char) : Option Char :=
  if c = 'b' then some '\x08'
  else if c = 't' then some '\t'
  else if c = 'n' then some '\n'
  else if c = 'f' then some '\x0c'
  else if c = 'r' then some '\r'
  else if c = '\x22' then some '\x22'
  else if c = '\\' then some '\\'
  else none

def basicRest : List Char → Reading (List Char)
  | [] => none
  | '\x22' :: cs => some ([], cs)
  | '\\' :: 'u' :: a :: b :: c :: d :: cs =>
    (scalar? [a, b, c, d]).bind fun x => prepend x (basicRest cs)
  | '\\' :: 'U' :: a :: b :: c :: d :: e :: f :: g :: h :: cs =>
    (scalar? [a, b, c, d, e, f, g, h]).bind fun x => prepend x (basicRest cs)
  | '\\' :: c :: cs => (escaped? c).bind fun x => prepend x (basicRest cs)
  | c :: cs => if isPlain c then prepend c (basicRest cs) else none

def literalRest : List Char → Reading (List Char)
  | [] => none
  | '\'' :: cs => some ([], cs)
  | c :: cs => if isPlain c then prepend c (literalRest cs) else none

/-- Where the reading of a string of several lines stands. -/
inductive Spot where
  | text
  /-- Behind a backslash, with nothing but blanks up to the end of the line. -/
  | lineEnd
  /-- On the lines behind such a line end. -/
  | nextLines
  deriving DecidableEq, Repr

/-- Whether only blanks stand before the next line end. -/
def endsLine (cs : List Char) : Bool := (lineEnd? (skipSpaces cs)).isSome

/-- A line end at some spot: kept in the text, dropped behind a backslash. -/
def keepLineEnd (spot : Spot) (following : Spot → Reading (List Char)) : Reading (List Char) :=
  if spot = .text then prepend '\n' (following .text) else following .nextLines

/-- The closing quotes may have one or two quotes of the text right before them. -/
def basicLines : Spot → List Char → Reading (List Char)
  | _, [] => none
  | spot, '\r' :: '\n' :: cs => keepLineEnd spot fun spot => basicLines spot cs
  | spot, '\n' :: cs => keepLineEnd spot fun spot => basicLines spot cs
  | .lineEnd, c :: cs => if isSpace c then basicLines .lineEnd cs else none
  | _, '\x22' :: '\x22' :: '\x22' :: '\x22' :: '\x22' :: cs => some (['\x22', '\x22'], cs)
  | _, '\x22' :: '\x22' :: '\x22' :: '\x22' :: cs => some (['\x22'], cs)
  | _, '\x22' :: '\x22' :: '\x22' :: cs => some ([], cs)
  | _, '\\' :: 'u' :: a :: b :: c :: d :: cs =>
    (scalar? [a, b, c, d]).bind fun x => prepend x (basicLines .text cs)
  | _, '\\' :: 'U' :: a :: b :: c :: d :: e :: f :: g :: h :: cs =>
    (scalar? [a, b, c, d, e, f, g, h]).bind fun x => prepend x (basicLines .text cs)
  | _, '\\' :: c :: cs =>
    if endsLine (c :: cs) then basicLines .lineEnd (c :: cs)
    else (escaped? c).bind fun x => prepend x (basicLines .text cs)
  | spot, c :: cs =>
    if spot = .nextLines ∧ isSpace c then basicLines .nextLines cs
    else if isPlain c then prepend c (basicLines .text cs)
    else none

def literalLines : List Char → Reading (List Char)
  | [] => none
  | '\r' :: '\n' :: cs => prepend '\n' (literalLines cs)
  | '\'' :: '\'' :: '\'' :: '\'' :: '\'' :: cs => some (['\'', '\''], cs)
  | '\'' :: '\'' :: '\'' :: '\'' :: cs => some (['\''], cs)
  | '\'' :: '\'' :: '\'' :: cs => some ([], cs)
  | c :: cs => if c = '\n' || isPlain c then prepend c (literalLines cs) else none

/-- A line end right behind the opening quotes does not count. -/
def skipLineEnd (cs : List Char) : List Char := (lineEnd? cs).getD cs

/-- Reads a string on one line, quotes included. -/
def quotation? : List Char → Reading (List Char)
  | '\x22' :: cs => basicRest cs
  | '\'' :: cs => literalRest cs
  | _ => none

/-- Reads a string of any form, quotes included. -/
def string? : List Char → Reading (List Char)
  | '\x22' :: '\x22' :: '\x22' :: cs => basicLines .text (skipLineEnd cs)
  | '\'' :: '\'' :: '\'' :: cs => literalLines (skipLineEnd cs)
  | cs => quotation? cs

end ServiceBootstrap.Toml
