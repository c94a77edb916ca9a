/-!
White space, and the words it separates.

The blank characters are the twenty-five code points with the property `White_Space`. A word is a
longest run of characters none of which is blank.
-/

namespace ServiceBootstrap.Text

def isBlank (c : Char) : Bool :=
  let n := c.toNat
  (0x9 ≤ n && n ≤ 0xd) || n == 0x20 || n == 0x85 || n == 0xa0 || n == 0x1680 ||
  (0x2000 ≤ n && n ≤ 0x200a) || n == 0x2028 || n == 0x2029 || n == 0x202f || n == 0x205f ||
  n == 0x3000

/-- What is left of a text once the blanks before its first word are gone. -/
def skipBlanks (cs : List Char) : List Char := cs.dropWhile isBlank

/-- The first word of a text and all that stands behind it. -/
def firstWord (cs : List Char) : List Char × List Char :=
  (skipBlanks cs).span (!isBlank ·)

/-- The second word of a text, if there is one. -/
def secondWord? (cs : List Char) : Option (List Char) :=
  match (firstWord (firstWord cs).2).1 with
  | [] => none
  | word => some word

end ServiceBootstrap.Text
