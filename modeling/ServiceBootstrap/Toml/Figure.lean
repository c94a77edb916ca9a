import ServiceBootstrap.Number.Binary64

/-!
Numbers: integers of 64 bits in four bases, and floating point numbers.

Single underscores may stand between digits. A decimal integer does not start with a zero unless
that is its only digit, and the integer part of a floating point number is written by the same
rule.
-/

namespace ServiceBootstrap.Toml

namespace Figure

/-- The digits of a text that has nothing but digits, with single underscores between them. -/
def digits? (isDigit : Char → Bool) : List Char → Option (List Char)
  | [] => none
  | [c] => if isDigit c then some [c] else none
  | c :: '_' :: cs => if isDigit c then (digits? isDigit cs).map (c :: ·) else none
  | c :: cs => if isDigit c then (digits? isDigit cs).map (c :: ·) else none

def digitValue (c : Char) : Nat :=
  if c.isDigit then c.toNat - '0'.toNat else c.toLower.toNat - 'a'.toNat + 10

def number (base : Nat) (ds : List Char) : Nat :=
  ds.foldl (fun n d => base * n + digitValue d) 0

/-- Decimal digits without a leading zero. -/
def decimal? (cs : List Char) : Option (List Char) :=
  match digits? Char.isDigit cs with
  | some ('0' :: _ :: _) => none
  | ds? => ds?

/-- The sign of a number, and what stands behind it. -/
def signed : List Char → Bool × List Char
  | '+' :: cs => (false, cs)
  | '-' :: cs => (true, cs)
  | cs => (false, cs)

def int64? (n : Int) : Option Int64 :=
  if Int64.minValue.toInt ≤ n ∧ n ≤ Int64.maxValue.toInt then some (Int64.ofInt n) else none

def isHexDigit (c : Char) : Bool :=
  c.isDigit || ('a' ≤ c && c ≤ 'f') || ('A' ≤ c && c ≤ 'F')

def isOctalDigit (c : Char) : Bool := '0' ≤ c && c ≤ '7'

def isBinaryDigit (c : Char) : Bool := c = '0' || c = '1'

def inBase? (base : Nat) (isDigit : Char → Bool) (cs : List Char) : Option Int64 :=
  (digits? isDigit cs).bind fun ds => int64? (number base ds)

/-- The exponent of a floating point number, behind its letter. -/
def exponent? (cs : List Char) : Option Int :=
  let (negative, cs) := signed cs
  (digits? Char.isDigit cs).map fun ds =>
    if negative then -(number 10 ds : Int) else number 10 ds

def isExponentMark (c : Char) : Bool := c = 'e' || c = 'E'

/-- What stands behind the integer part: the digits of the fraction, and the exponent. One of the
two has to be there. -/
def tail? : List Char → Option (List Char × Int)
  | '.' :: cs =>
    let (fraction, rest) := cs.span (!isExponentMark ·)
    (digits? Char.isDigit fraction).bind fun ds =>
      match rest with
      | [] => some (ds, 0)
      | _ :: exponent => (exponent? exponent).map (ds, ·)
  | c :: cs => if isExponentMark c then (exponent? cs).map ([], ·) else none
  | [] => none

def finite? (cs : List Char) : Option Binary64 := do
  let (negative, body) := signed cs
  let (whole, rest) := body.span fun c => !(c = '.' || isExponentMark c)
  let whole ← decimal? whole
  let (fraction, exponent) ← tail? rest
  let x := Binary64.ofDecimal negative (number 10 (whole ++ fraction)) (exponent - fraction.length)
  guard (x ≠ .infinite false)
  return x

end Figure

def integer? : List Char → Option Int64
  | '0' :: 'x' :: cs => Figure.inBase? 16 Figure.isHexDigit cs
  | '0' :: 'o' :: cs => Figure.inBase? 8 Figure.isOctalDigit cs
  | '0' :: 'b' :: cs => Figure.inBase? 2 Figure.isBinaryDigit cs
  | cs =>
    let (negative, body) := Figure.signed cs
    (Figure.decimal? body).bind fun ds =>
      let n := Figure.number 10 ds
      Figure.int64? (if negative then -(n : Int) else n)

def float? (cs : List Char) : Option Binary64 :=
  let (negative, body) := Figure.signed cs
  if body = ['i', 'n', 'f'] then some (.infinite negative)
  else if body = ['n', 'a', 'n'] then some .nan
  else Figure.finite? cs

end ServiceBootstrap.Toml
