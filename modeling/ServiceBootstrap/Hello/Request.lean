import ServiceBootstrap.Text.Blank

/-!
The request line of the head of a request, and the path it asks for.
-/

namespace ServiceBootstrap.Hello

def firstLine (head : List Char) : List Char := head.takeWhile (· ≠ '\n')

/-- The second word of the first line, without the query that a question mark sets off. -/
def requestPath? (head : List Char) : Option (List Char) :=
  (Text.secondWord? (firstLine head)).map (·.takeWhile (· ≠ '?'))

/-- A head that asks for no path asks for the root. -/
def requestPath (head : List Char) : List Char := (requestPath? head).getD ['/']

end ServiceBootstrap.Hello
