import ServiceBootstrap.Session.Stop

/-!
The layers that a session puts on its pending outcomes.

Every pending outcome of a session carries one kind of success, and each layer fits the kinds it
has a meaning for.
-/

namespace ServiceBootstrap.Session

inductive YieldKind where
  | number
  | text
  | started
  | stopped
  deriving DecidableEq, Repr, Inhabited

inductive Mapping where
  | add (n : Int64)
  | text
  | port
  | id

/-- The kind a mapping makes of another, if it fits. -/
def Mapping.kind? : Mapping → YieldKind → Option YieldKind
  | add _, .number => some .number
  | text, .number => some .text
  | port, .started => some .number
  | id, .started | id, .stopped => some .text
  | _, _ => none

def Mapping.apply : Mapping → Yield → Stage Script → Yield × Stage Script
  | add n, .number v, s => (.number (v + n), s.say (.adding n))
  | text, .number v, s => (.text (toString v.toInt), s)
  | port, .started i, s => (.number (Int64.ofInt i.configuration.port.toInt), s)
  | id, .started i, s => (.text i.key.id.text, s)
  | id, .stopped r, s => (.text r.id.text, s)
  | _, y, s => (y, s)

/-- What a pending outcome can be composed with, apart from another pending outcome. -/
inductive Sequel where
  | ready (n : Int64)
  | fail (failure : Failure)
  | stop

def Sequel.kind? : Sequel → YieldKind → Option YieldKind
  | ready _, .number => some .number
  | fail _, .number => some .number
  | stop, .started => some .stopped
  | _, _ => none

def Sequel.apply : Sequel → Yield → Stage Script → Pending Script × Stage Script
  | ready n, .number v, s => (.value (.number (v + n)), s.say (.composingReady n))
  | fail e, .number v, s => (.failed e, s.say (.composingFailure v))
  | stop, .started i, s => i.stop s
  | _, y, s => (.value y, s)

abbrev Continuation := ServiceBootstrap.Pending.Continuation (Stage Script) (Source Script) Yield

def Sequel.continuation (q : Sequel) : Continuation where
  next y s := (q.apply y s).1
  effect y s := (q.apply y s).2

/-- Adds a number to the outcome of another pending outcome. -/
def addTo (y : Yield) : Yield → Yield
  | .number w =>
    match y with
    | .number v => .number (v + w)
    | _ => .number w
  | w => w

/-- Goes on with another pending outcome, and adds its number; that one is given up if it is not
reached. -/
def other (q : Pending Script) : Continuation where
  next y _ := q.map fun w s => (addTo y w, s)
  effect y s :=
    match y with
    | .number v => s.say (.composingOther v)
    | _ => s
  discard := q.abandon

def inspect (p : Pending Script) : Pending Script :=
  p.inspectFailure fun e s => s.say (.inspecting e)

end ServiceBootstrap.Session
