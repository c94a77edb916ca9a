/-!
Reading bytes as UTF-8, one byte at a time.

The scan stands between characters or inside one, and then knows how many bytes are still owed and
in which range the next one has to lie. Bytes that cannot be continued into a character are
reported as one ill-formed piece, as long as it can be; the byte that broke the piece off is then
read afresh.
-/

namespace ServiceBootstrap.Text

namespace Utf8

/-- What the scan has seen of the character it is inside of; nothing is owed between characters. -/
structure Scan where
  owed : Nat
  low : Nat
  high : Nat
  code : Nat
  deriving DecidableEq, Repr

def between : Scan := ⟨0, 0x80, 0xbf, 0⟩

/-- A character that was read, or nothing for an ill-formed piece. -/
abbrev Piece := Option Char

/-- Reads a byte that begins a character. -/
def first (b : Nat) : List Piece × Scan :=
  if b < 0x80 then ([some (Char.ofNat b)], between)
  else if 0xc2 ≤ b ∧ b ≤ 0xdf then ([], ⟨1, 0x80, 0xbf, b - 0xc0⟩)
  else if b = 0xe0 then ([], ⟨2, 0xa0, 0xbf, 0⟩)
  else if b = 0xed then ([], ⟨2, 0x80, 0x9f, 0xd⟩)
  else if 0xe1 ≤ b ∧ b ≤ 0xef then ([], ⟨2, 0x80, 0xbf, b - 0xe0⟩)
  else if b = 0xf0 then ([], ⟨3, 0x90, 0xbf, 0⟩)
  else if 0xf1 ≤ b ∧ b ≤ 0xf3 then ([], ⟨3, 0x80, 0xbf, b - 0xf0⟩)
  else if b = 0xf4 then ([], ⟨3, 0x80, 0x8f, 4⟩)
  else ([none], between)

def step (s : Scan) (byte : UInt8) : List Piece × Scan :=
  let b := byte.toNat
  if s.owed = 0 then first b
  else if s.low ≤ b ∧ b ≤ s.high then
    let code := 64 * s.code + (b - 0x80)
    if s.owed = 1 then ([some (Char.ofNat code)], between)
    else ([], ⟨s.owed - 1, 0x80, 0xbf, code⟩)
  else (none :: (first b).1, (first b).2)

/-- The pieces of what is left of a text; a character cut off at the end is ill-formed. -/
def piecesFrom (s : Scan) : List UInt8 → List Piece
  | [] => if s.owed = 0 then [] else [none]
  | b :: bs => (step s b).1 ++ piecesFrom (step s b).2 bs

def pieces (bytes : List UInt8) : List Piece := piecesFrom between bytes

/-- All characters of the bytes, with the replacement character for each ill-formed piece. -/
def lossy (bytes : List UInt8) : List Char := (pieces bytes).map (·.getD '\ufffd')

/-- The characters of the bytes, if no piece is ill-formed. -/
def strict? (bytes : List UInt8) : Option (List Char) := (pieces bytes).mapM id

end Utf8

end ServiceBootstrap.Text
