/-!
Writing strings as JSON. Quotes, backslashes and control characters are escaped, the latter by a
letter if there is one, and everything else stands as it is.
-/

namespace ServiceBootstrap.Json

def codeEscape (c : Char) : List Char :=
  ['\\', 'u', '0', '0', Nat.digitChar (c.toNat / 16 % 16), Nat.digitChar (c.toNat % 16)]

def escape (c : Char) : List Char :=
  if c = '\x22' then ['\\', '\x22']
  else if c = '\\' then ['\\', '\\']
  else if c = '\x08' then ['\\', 'b']
  else if c = '\t' then ['\\', 't']
  else if c = '\n' then ['\\', 'n']
  else if c = '\x0c' then ['\\', 'f']
  else if c = '\r' then ['\\', 'r']
  else if c.toNat < 0x20 then codeEscape c
  else [c]

def writeString (cs : List Char) : List Char := '\x22' :: cs.flatMap escape ++ ['\x22']

end ServiceBootstrap.Json
