import ServiceBootstrap.Text.Quoted

/-!
The policy on client certificates for secure connections, and the words for it.
-/

namespace ServiceBootstrap

inductive ClientAuth where
  | none
  | optional
  | mandatory
  deriving DecidableEq, Repr, Inhabited

namespace ClientAuth

/-- The word for a policy in reports. -/
def word : ClientAuth → String
  | none => "NONE"
  | optional => "OPTIONAL"
  | mandatory => "MANDATORY"

/-- The name of a policy inside descriptions. -/
def name : ClientAuth → String
  | none => "None"
  | optional => "Optional"
  | mandatory => "Mandatory"

def all : List ClientAuth := [none, optional, mandatory]

/-- A word that names no policy. -/
structure UnknownWord where
  word : String
  deriving DecidableEq, Repr, Inhabited

def UnknownWord.message (e : UnknownWord) : String :=
  "unknown client authentication policy " ++ Text.quoted e.word ++
    " (expected none, optional or mandatory)"

/-- Reads the word for a policy in any case of its ASCII letters. -/
def ofWord (s : String) : Except UnknownWord ClientAuth :=
  match all.find? (·.word == s.toUpper) with
  | some policy => .ok policy
  | Option.none => .error ⟨s⟩

end ClientAuth

end ServiceBootstrap
