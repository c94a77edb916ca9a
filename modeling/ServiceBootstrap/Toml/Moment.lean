/-!
Dates and times: a date, a time of day, or both with an optional offset.

Reading checks the ranges of all parts, and the text that is kept is normalized: a `T` between
date and time, at most nine digits of a fraction of a second and none that are zero at its end,
and a capital `Z`.
-/

namespace ServiceBootstrap.Toml

namespace Moment

def digit? (c : Char) : Option Nat :=
  if c.isDigit then some (c.toNat - '0'.toNat) else none

def pair? (a b : Char) : Option Nat := do return 10 * (← digit? a) + (← digit? b)

def isLeap (year : Nat) : Bool := year % 4 = 0 && (year % 100 ≠ 0 || year % 400 = 0)

def daysIn (year month : Nat) : Nat :=
  if month = 2 then if isLeap year then 29 else 28
  else if month = 4 ∨ month = 6 ∨ month = 9 ∨ month = 11 then 30
  else 31

/-- The text of a part of a moment, and what stands behind it. -/
abbrev Part := Option (List Char × List Char)

def date? : List Char → Part
  | y1 :: y2 :: y3 :: y4 :: '-' :: m1 :: m2 :: '-' :: d1 :: d2 :: rest => do
    let year := 100 * (← pair? y1 y2) + (← pair? y3 y4)
    let month ← pair? m1 m2
    let day ← pair? d1 d2
    guard (1 ≤ month ∧ month ≤ 12 ∧ 1 ≤ day ∧ day ≤ daysIn year month)
    return ([y1, y2, y3, y4, '-', m1, m2, '-', d1, d2], rest)
  | _ => none

/-- The fraction of a second behind its point. -/
def fraction (digits : List Char) : List Char :=
  match ((digits.take 9).reverse.dropWhile (· = '0')).reverse with
  | [] => []
  | kept => '.' :: kept

def time? : List Char → Part
  | h1 :: h2 :: ':' :: m1 :: m2 :: ':' :: s1 :: s2 :: rest => do
    let hour ← pair? h1 h2
    let minute ← pair? m1 m2
    let second ← pair? s1 s2
    guard (hour < 24 ∧ minute < 60 ∧ second ≤ 60)
    let whole := [h1, h2, ':', m1, m2, ':', s1, s2]
    match rest with
    | '.' :: behind =>
      let (digits, rest) := behind.span Char.isDigit
      guard (digits ≠ [])
      return (whole ++ fraction digits, rest)
    | _ => return (whole, rest)
  | _ => none

/-- An offset that makes up all of a text. -/
def offset? : List Char → Option (List Char)
  | [] => some []
  | [c] => if c = 'Z' ∨ c = 'z' then some ['Z'] else none
  | [sign, h1, h2, ':', m1, m2] => do
    let hour ← pair? h1 h2
    let minute ← pair? m1 m2
    guard ((sign = '+' ∨ sign = '-') ∧ hour < 24 ∧ minute < 60)
    let shown := if hour = 0 ∧ minute = 0 then '+' else sign
    return [shown, h1, h2, ':', m1, m2]
  | _ => none

end Moment

/-- Reads a moment that makes up all of a text. -/
def moment? (cs : List Char) : Option (List Char) :=
  match Moment.date? cs with
  | some (date, []) => some date
  | some (date, c :: cs) =>
    if c = 'T' ∨ c = 't' ∨ c = ' ' then do
      let (time, rest) ← Moment.time? cs
      return date ++ 'T' :: time ++ (← Moment.offset? rest)
    else none
  | none =>
    match Moment.time? cs with
    | some (time, []) => some time
    | _ => none

end ServiceBootstrap.Toml
