import ServiceBootstrap.Text.Quoted

/-!
Writing strings the way TOML reads them best.

Of the four forms the first is taken that needs no escapes: a basic string on one line, a literal
string on one line, a basic string on several lines, a literal string on several lines. If all of
them need escapes it is a basic string, on several lines exactly if the text has a line feed. In a
basic string of several lines up to two quotes in a row stand as they are.
-/

namespace ServiceBootstrap.Toml

inductive Form where
  | basic
  | literal
  | basicLines
  | literalLines
  deriving DecidableEq, Repr

/-- The length of the longest run of a character, of which the given number stand right before the
text. -/
def longestRunFrom (q : Char) (run : Nat) : List Char → Nat
  | [] => run
  | c :: cs => if c = q then longestRunFrom q (run + 1) cs else max run (longestRunFrom q 0 cs)

def longestRun (q : Char) (cs : List Char) : Nat := longestRunFrom q 0 cs

/-- Control characters that no form takes as they are. -/
def needsEscape (c : Char) : Bool :=
  (c.toNat ≤ 0x1f || c.toNat = 0x7f) && c ≠ '\t' && c ≠ '\n'

def form (cs : List Char) : Form :=
  let coded := cs.any needsEscape
  let slashed := cs.contains '\\'
  let broken := cs.contains '\n'
  let double := longestRun '\x22' cs
  let single := longestRun '\'' cs
  if !coded && !slashed && double = 0 && !broken then .basic
  else if !coded && single = 0 && !broken then .literal
  else if !coded && !slashed && double ≤ 2 then .basicLines
  else if !coded && single ≤ 2 then .literalLines
  else if broken then .basicLines
  else .basic

/-- A digit of a code point, with capital letters. -/
def hexDigit (n : Nat) : Char := if n < 10 then Nat.digitChar n else (Nat.digitChar n).toUpper

/-- A code point of at most four hexadecimal digits. -/
def codeEscape (c : Char) : List Char :=
  let n := c.toNat
  ['\\', 'u', hexDigit (n / 4096 % 16), hexDigit (n / 256 % 16), hexDigit (n / 16 % 16),
    hexDigit (n % 16)]

/-- A character of a basic string; quotes and line feeds are seen to elsewhere. -/
def escape (c : Char) : List Char :=
  if c = '\x08' then ['\\', 'b']
  else if c = '\t' then ['\\', 't']
  else if c = '\x0c' then ['\\', 'f']
  else if c = '\r' then ['\\', 'r']
  else if c = '\\' then ['\\', '\\']
  else if needsEscape c then codeEscape c
  else [c]

def writeBasic : List Char → List Char
  | [] => []
  | c :: cs =>
    (if c = '\x22' then ['\\', '\x22'] else if c = '\n' then ['\\', 'n'] else escape c) ++
      writeBasic cs

/-- How many quotes in a row may stand as they are. -/
def quotesInRow : Nat := 2

def writeBasicLines (run : Nat) : List Char → List Char
  | [] => []
  | c :: cs =>
    if c = '\x22' then
      if run < quotesInRow then '\x22' :: writeBasicLines (run + 1) cs
      else '\\' :: '\x22' :: writeBasicLines 0 cs
    else if c = '\n' then '\n' :: writeBasicLines 0 cs
    else escape c ++ writeBasicLines 0 cs

/-- Behind opening quotes of several lines stands a line feed that does not count, if the text has
a line feed itself. -/
def opening (cs : List Char) : List Char := if cs.contains '\n' then ['\n'] else []

def writeString (cs : List Char) : List Char :=
  match form cs with
  | .basic => '\x22' :: writeBasic cs ++ ['\x22']
  | .literal => '\'' :: cs ++ ['\'']
  | .basicLines =>
    ['\x22', '\x22', '\x22'] ++ opening cs ++ writeBasicLines 0 cs ++ ['\x22', '\x22', '\x22']
  | .literalLines => ['\'', '\'', '\''] ++ opening cs ++ cs ++ ['\'', '\'', '\'']

end ServiceBootstrap.Toml
