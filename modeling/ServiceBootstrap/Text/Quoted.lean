import ServiceBootstrap.Text.Printable

/-!
Quoted text: how a string is shown inside a description.

A quote and a backslash get a backslash before them, tab, line feed, carriage return and the null
character have short escapes, and every other character that is not printable, or that would
combine with the character before it, is written as its code point in hexadecimal.
-/

namespace ServiceBootstrap.Text

/-- A code point as it is written in an escape. -/
def codeEscape (c : Char) : List Char :=
  '\\' :: 'u' :: '\x7b' :: Nat.toDigits 16 c.toNat ++ ['\x7d']

def quotedChar (c : Char) : List Char :=
  if c = '\x00' then ['\\', '0']
  else if c = '\t' then ['\\', 't']
  else if c = '\r' then ['\\', 'r']
  else if c = '\n' then ['\\', 'n']
  else if c = '\x22' then ['\\', '\x22']
  else if c = '\\' then ['\\', '\\']
  else if isExtender c then codeEscape c
  else if isPrintable c then [c]
  else codeEscape c

def quotedChars (cs : List Char) : List Char :=
  '\x22' :: cs.flatMap quotedChar ++ ['\x22']

def quoted (s : String) : String := String.ofList (quotedChars s.toList)

@[simp] theorem toList_quoted (s : String) : (quoted s).toList = quotedChars s.toList := by
  simp [quoted]

end ServiceBootstrap.Text
