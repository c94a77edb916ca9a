import ServiceBootstrap.Toml.Figure
import ServiceBootstrap.Toml.Quotation

/-!
Reading JSON, as RFC 8259 has it.

A text is one value with blanks around it, and a value may nest to any depth. Numbers keep their
exact value. A code point beyond four hexadecimal digits is escaped as two surrogates, and a
surrogate that is not one of two is refused.
-/

namespace ServiceBootstrap.Json

/-- A mantissa, times a power of ten. -/
structure Number where
  mantissa : Int
  exponent : Int
  deriving DecidableEq, Repr

/-- What a text says. An object keeps its members in the order of the text. -/
inductive Tree where
  | null
  | boolean (b : Bool)
  | number (x : Number)
  | string (s : String)
  | array (items : List Tree)
  | object (members : List (String × Tree))
  deriving Repr

abbrev Reading (α : Type) := Toml.Reading α

def isBlank (c : Char) : Bool := c = ' ' || c = '\t' || c = '\n' || c = '\r'

def skipBlanks (cs : List Char) : List Char := cs.dropWhile isBlank

/-! ### Strings -/

/-- What the character behind a backslash stands for. -/
def escaped? (c : Char) : Option Char :=
  if c = '\x22' then some '\x22'
  else if c = '\\' then some '\\'
  else if c = '/' then some '/'
  else if c = 'b' then some '\x08'
  else if c = 'f' then some '\x0c'
  else if c = 'n' then some '\n'
  else if c = 'r' then some '\r'
  else if c = 't' then some '\t'
  else none

/-- The characters that stand for themselves. -/
def isPlain (c : Char) : Bool := 0x20 ≤ c.toNat && c ≠ '\x22' && c ≠ '\\'

def isHighSurrogate (n : Nat) : Bool := 0xd800 ≤ n && n < 0xdc00

def isLowSurrogate (n : Nat) : Bool := 0xdc00 ≤ n && n < 0xe000

/-- The rest of a string, maybe behind the first of two surrogates. -/
def stringRest : Option Nat → List Char → Reading (List Char)
  | none, '\x22' :: cs => some ([], cs)
  | high?, '\\' :: 'u' :: a :: b :: c :: d :: cs =>
    (Toml.hexNumber? [a, b, c, d]).bind fun n =>
      match high? with
      | some high =>
        if isLowSurrogate n then
          Toml.prepend (Char.ofNat (0x10000 + 0x400 * (high - 0xd800) + (n - 0xdc00)))
            (stringRest none cs)
        else none
      | none =>
        if isHighSurrogate n then stringRest (some n) cs
        else if isLowSurrogate n then none
        else Toml.prepend (Char.ofNat n) (stringRest none cs)
  | none, '\\' :: c :: cs => (escaped? c).bind fun x => Toml.prepend x (stringRest none cs)
  | none, c :: cs => if isPlain c then Toml.prepend c (stringRest none cs) else none
  | _, _ => none

def string? : List Char → Reading String
  | '\x22' :: cs => (stringRest none cs).map fun (text, rest) => (String.ofList text, rest)
  | _ => none

/-! ### Numbers -/

/-- Digits, of which there has to be one. -/
def digits? (cs : List Char) : Reading (List Char) :=
  match cs.span Char.isDigit with
  | ([], _) => none
  | (ds, rest) => some (ds, rest)

/-- A zero, or digits that do not start with one. -/
def whole? (cs : List Char) : Reading (List Char) :=
  match digits? cs with
  | some ('0' :: _ :: _, _) => none
  | reading => reading

def fraction? : List Char → Reading (List Char)
  | '.' :: cs => digits? cs
  | cs => some ([], cs)

def exponentValue? (cs : List Char) : Reading Int :=
  let (negative, cs) := Toml.Figure.signed cs
  (digits? cs).map fun (ds, rest) =>
    (if negative then -(Nat.ofDigitChars 10 ds 0 : Int) else Nat.ofDigitChars 10 ds 0, rest)

def exponent? : List Char → Reading Int
  | 'e' :: cs | 'E' :: cs => exponentValue? cs
  | cs => some (0, cs)

/-- A number behind its sign. -/
def magnitude? (negative : Bool) (cs : List Char) : Option (Number × List Char) := do
  let (whole, rest) ← whole? cs
  let (fraction, rest) ← fraction? rest
  let (exponent, rest) ← exponent? rest
  let digits := Nat.ofDigitChars 10 (whole ++ fraction) 0
  return (⟨if negative then -(digits : Int) else digits, exponent - fraction.length⟩, rest)

def number? : List Char → Reading Number
  | '-' :: cs => magnitude? true cs
  | cs => magnitude? false cs

/-! ### Values -/

section

variable {α : Type}

/-- What stands behind an opening bracket or a comma, up to the closing bracket. The fuel bounds
the number of parts. -/
def parts (read : List Char → Reading α) (close : Char) :
    Nat → List Char → Option (List α × List Char)
  | 0, _ => none
  | fuel + 1, cs => do
    let (part, rest) ← read (skipBlanks cs)
    match skipBlanks rest with
    | [] => none
    | c :: rest =>
      if c = ',' then (parts read close fuel rest).map fun (more, rest) => (part :: more, rest)
      else if c = close then some ([part], rest)
      else none

/-- What stands behind an opening bracket. -/
def bracketed? (read : List Char → Reading α) (close : Char) (cs : List Char) :
    Reading (List α) :=
  match skipBlanks cs with
  | [] => none
  | c :: rest => if c = close then some ([], rest) else parts read close cs.length (c :: rest)

end

def member? (value? : List Char → Reading Tree) (cs : List Char) :
    Option ((String × Tree) × List Char) := do
  let (name, rest) ← string? cs
  match skipBlanks rest with
  | ':' :: rest => (value? (skipBlanks rest)).map fun (t, rest) => ((name, t), rest)
  | _ => none

/-- A string or a number. -/
def scalar? (cs : List Char) : Reading Tree :=
  match string? cs with
  | some (text, rest) => some (.string text, rest)
  | none => (number? cs).map fun (x, rest) => (.number x, rest)

/-- A value with at most the given number of brackets around another. -/
def value? : Nat → List Char → Reading Tree
  | _, 'n' :: 'u' :: 'l' :: 'l' :: rest => some (.null, rest)
  | _, 't' :: 'r' :: 'u' :: 'e' :: rest => some (.boolean true, rest)
  | _, 'f' :: 'a' :: 'l' :: 's' :: 'e' :: rest => some (.boolean false, rest)
  | depth + 1, '[' :: cs =>
    (bracketed? (value? depth) ']' cs).map fun (ts, rest) => (.array ts, rest)
  | depth + 1, '\x7b' :: cs =>
    (bracketed? (member? (value? depth)) '\x7d' cs).map fun (ms, rest) => (.object ms, rest)
  | _, cs => scalar? cs

/-- The value of a text, if it is one. No value has more brackets than characters. -/
def parse? (cs : List Char) : Option Tree :=
  match value? cs.length (skipBlanks cs) with
  | some (t, rest) => if skipBlanks rest = [] then some t else none
  | none => none

end ServiceBootstrap.Json
