/-!
Binary floating point numbers of 64 bits, read from decimal and shown in decimal.

A finite number is `m · 2^q` with a significand below `2^53` and `-1074 ≤ q ≤ 971`. A decimal is
read as the nearest such number, a tie going to the even significand. A number is shown with the
fewest digits that are read back as the number itself, and of those with the digits nearest to it.
All of this is arithmetic on natural numbers.
-/

namespace ServiceBootstrap

inductive Binary64 where
  | finite (negative : Bool) (significand : Nat) (exponent : Int)
  | infinite (negative : Bool)
  | nan
  deriving DecidableEq, Repr, Inhabited

namespace Binary64

def precision : Nat := 53
def minExponent : Int := -1074
def maxExponent : Int := 971

/-- A positive rational number, by numerator and denominator. -/
structure Ratio where
  num : Nat
  den : Nat
  deriving Repr

/-- The rational `n · base^e`. -/
def Ratio.scaled (n base : Nat) (e : Int) : Ratio :=
  if 0 ≤ e then ⟨n * base.pow e.toNat, 1⟩ else ⟨n, base.pow (-e).toNat⟩

/-- The rational divided by `base^e`. -/
def Ratio.shift (r : Ratio) (base : Nat) (e : Int) : Ratio :=
  if 0 ≤ e then ⟨r.num, r.den * base.pow e.toNat⟩ else ⟨r.num * base.pow (-e).toNat, r.den⟩

def Ratio.floor (r : Ratio) : Nat := r.num / r.den

/-- Whether the rational is below the half of a natural number. -/
def Ratio.compareHalf (r : Ratio) (twice : Nat) : Ordering := compare (2 * r.num) (twice * r.den)

/-- The nearest natural number, a tie going to the even one. -/
def Ratio.round (r : Ratio) : Nat :=
  let n := r.floor
  match r.compareHalf (2 * n + 1) with
  | .lt => n
  | .gt => n + 1
  | .eq => if n % 2 = 0 then n else n + 1

/-- The nearest number to a positive rational. -/
def ofRatio (negative : Bool) (r : Ratio) : Binary64 :=
  let estimate : Int := (r.num.log2 : Int) - r.den.log2 - precision
  let low := max estimate minExponent
  let q := if (r.shift 2 low).floor < Nat.pow 2 precision then low else low + 1
  let m := (r.shift 2 q).round
  let (m, q) := if m = Nat.pow 2 precision then (m / 2, q + 1) else (m, q)
  if maxExponent < q then .infinite negative else .finite negative m q

def decimalLength (n : Nat) : Nat := (Nat.toDigits 10 n).length

/-- Beyond these powers of ten everything is infinite, or zero. -/
def tooLarge : Int := 400
def tooSmall : Int := -400

/-- The nearest number to `digits · 10^exponent`. -/
def ofDecimal (negative : Bool) (digits : Nat) (exponent : Int) : Binary64 :=
  let magnitude : Int := decimalLength digits + exponent
  if digits = 0 ∨ magnitude < tooSmall then .finite negative 0 minExponent
  else if tooLarge < magnitude then .infinite negative
  else ofRatio negative (.scaled digits 10 exponent)

/-- The numbers that are read as `m · 2^q` lie between these two, in units of `2^(q - 2)`. -/
def bounds (m : Nat) (q : Int) : Nat × Nat :=
  (if m = Nat.pow 2 (precision - 1) ∧ minExponent < q then 4 * m - 1 else 4 * m - 2, 4 * m + 2)

/-- Whether `n · 10^k` is read as `m · 2^q`. -/
def readsAs (m : Nat) (q : Int) (n : Nat) (k : Int) : Bool :=
  let r := (Ratio.scaled n 10 k).shift 2 (q - 2)
  let (low, high) := bounds m q
  if m % 2 = 0 then low * r.den ≤ r.num && r.num ≤ high * r.den
  else low * r.den < r.num && r.num < high * r.den

/-- The power of ten that the first digit of `m · 2^q` stands for. -/
def leading (m : Nat) (q : Int) : Int :=
  let r := Ratio.scaled m 2 q
  if r.den ≤ r.num then (decimalLength r.floor : Int) - 1
  else -(decimalLength ((r.den + r.num - 1) / r.num - 1) : Int)

/-- The nearest of the two decimals of the grid `10^k` around a number, if it is read back. -/
def onGrid? (m : Nat) (q : Int) (k : Int) : Option Nat :=
  let r := (Ratio.scaled m 2 q).shift 10 k
  let n := r.floor
  let near := if r.compareHalf (2 * n + 1) = .lt then [n, n + 1] else [n + 1, n]
  near.find? fun n => n != 0 && readsAs m q n k

/-- The digits of a positive number, and the power of ten that the last of them stands for. -/
def shortest (m : Nat) (q : Int) : Nat × Int :=
  let grids := (List.range 18).map fun (n : Nat) => leading m q + 1 - (n : Int)
  match grids.findSome? fun k => (onGrid? m q k).map (·, k) with
  | some found => found
  | none => (m, 0)

/-- Digits with the point where the power of ten wants it, and at least one digit on either side
of it. -/
def positional (digits : List Char) (k : Int) : List Char :=
  if 0 ≤ k then digits ++ List.replicate k.toNat '0' ++ ['.', '0']
  else
    let places := (-k).toNat
    let padded := List.replicate (places + 1 - digits.length) '0' ++ digits
    padded.take (padded.length - places) ++ '.' :: padded.drop (padded.length - places)

def shown : Binary64 → String
  | nan => "NaN"
  | infinite negative => if negative then "-inf" else "inf"
  | finite negative m q =>
    let (n, k) := if m = 0 then (0, 0) else shortest m q
    String.ofList ((if negative then ['-'] else []) ++ positional (Nat.toDigits 10 n) k)

end Binary64

end ServiceBootstrap
