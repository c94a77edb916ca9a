import ServiceBootstrap.Failure.InputOutput
import ServiceBootstrap.Text.Utf8

/-!
Files as a reader sees them: which paths name a regular file, and what reading a path gives.
-/

namespace ServiceBootstrap

structure Files where
  isFile : String → Bool
  read : String → Except IoFailure (List UInt8)

namespace Files

/-- The path of a name below a directory, with one slash between them. -/
def join (directory name : String) : String :=
  if directory.toList.getLast?.all (· = '/') then directory ++ name else directory ++ "/" ++ name

def notFound : IoFailure := ⟨.notFound, "No such file or directory (os error 2)"⟩
def notADirectory : IoFailure := ⟨.notADirectory, "Not a directory (os error 20)"⟩
def isADirectory : IoFailure := ⟨.isADirectory, "Is a directory (os error 21)"⟩
def nameTooLong : IoFailure := ⟨.invalidFilename, "File name too long (os error 36)"⟩
def nulInName : IoFailure :=
  ⟨.invalidInput, "file name contained an unexpected NUL byte"⟩
def notText : IoFailure := ⟨.invalidData, "stream did not contain valid UTF-8"⟩

/-- The content of a file as text. -/
def readText (files : Files) (path : String) : Except IoFailure (List Char) :=
  match files.read path with
  | .error e => .error e
  | .ok bytes =>
    match Text.Utf8.strict? bytes with
    | some cs => .ok cs
    | none => .error notText

end Files

end ServiceBootstrap
