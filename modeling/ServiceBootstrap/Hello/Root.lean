/-!
Root paths, and which request paths lie under them.

A root covers a path if the path is the root or goes on behind it with a slash; slashes at the end
of the root do not count, and a root of nothing but slashes covers every path.
-/

namespace ServiceBootstrap.Hello

/-- A root path always starts with a slash. -/
def normalizeRoot (root : String) : String :=
  if root.toList.head? = some '/' then root else "/" ++ root

def trimSlashes (cs : List Char) : List Char := (cs.reverse.dropWhile (· = '/')).reverse

/-- What stands behind `start` in a text that begins with it. -/
def after? : List Char → List Char → Option (List Char)
  | [], cs => some cs
  | _ :: _, [] => none
  | a :: start, c :: cs => if a = c then after? start cs else none

def coveredBy (root path : List Char) : Bool :=
  match trimSlashes root with
  | [] => true
  | r => path = r || ((after? r path).bind List.head? = some '/')

def underRoot (path root : String) : Bool := coveredBy root.toList path.toList

theorem after?_eq_some {start cs rest : List Char} :
    after? start cs = some rest ↔ cs = start ++ rest := by
  induction start generalizing cs with
  | nil => simp [after?, eq_comm]
  | cons a start ih =>
    cases cs with
    | nil => simp [after?]
    | cons c cs => grind [after?]

end ServiceBootstrap.Hello
