import ServiceBootstrap.Session.Script

/-!
Stopping an instance.

The first request to stop is handed to the control of the instance together with the completion;
every later one is refused. The stop comes to its outcome when it is waited for: the instance is
then stopped whatever the outcome is, and the outcome is the control's own.
-/

namespace ServiceBootstrap

open Session

namespace Session

variable {W : Type}

/-- The completion kept for a control is given up. -/
def Stage.complete (name : String) (s : Stage W) : Option (Stage W) :=
  (s.completions.get name).map fun key =>
    { s with completions := s.completions.set name none }.release key

/-- Sends the outcome of a stop in place of its control. -/
def Stage.sendNative (name : String) (o : Outcome (Option Value)) (s : Stage W) :
    Option (Bool × Stage W) :=
  (s.natives.get name).map fun key =>
    { s with natives := s.natives.set name none }.send (.native key) (o.map .native)

/-- The sender of the outcome of a stop is given up. -/
def Stage.abandonNative (name : String) (s : Stage W) : Option (Stage W) :=
  (s.natives.get name).map fun key =>
    { s with natives := s.natives.set name none }.closeLine (.native key)

/-- Keeps the completion and the sender of the outcome under the name of the control, in place of
what was kept there. -/
def Stage.keep (name : String) (key : InstanceKey) (s : Stage W) : Stage W :=
  let s := (s.complete name).getD s
  let s := (s.abandonNative name).getD s
  { s with
    completions := s.completions.set name (some key)
    natives := s.natives.set name (some key) }

/-- The stop of an instance comes to its outcome. -/
def Stage.conclude (key : InstanceKey) (o : Outcome Yield) (s : Stage W) :
    Outcome Yield × Stage W :=
  let s := s.setLifecycle key (s.lifecycle key).conclude
  match o with
  | .ok y => (.ok (.stopped ⟨key.id, y.native?⟩), s.report (.stopped key.id))
  | .error e => (.error e, s.report (.stoppedWithFailure key.id e))

/-- A request to stop an instance. `tell` is what the control of the instance does when it is told
to stop and is handed the completion. -/
def Stage.requestStop (key : InstanceKey) (tell : Stage W → Pending W × Stage W) (s : Stage W) :
    Pending W × Stage W :=
  match (s.lifecycle key).request? with
  | none => (.failed (.alreadyStopped key.id), s.report (.stopRefused key.id))
  | some l =>
    let (p, s) := tell ((s.setLifecycle key l).report (.stopping key.id))
    (.settle p (Stage.conclude key) id, s)

end Session

/-- What a control does when it is told to stop. The control of a listener does not say so. -/
def Control.stop (c : Control) (key : InstanceKey) (s : Stage Script) :
    Session.Pending Script × Stage Script :=
  let told := s.say (.controlStop c.name)
  match c.kind with
  | .immediate => (.ready (some (c.outcome.map .native)), told.release key)
  | .lazy => (.future ⟨[.note .controlFuture, .release key], c.outcome.map .native⟩, told)
  | .spawned =>
    Session.Pending.spawn (.native key)
      ⟨[.release key, .note .controlWork], c.outcome.map .native⟩ told
  | .manual => (.receive (.native key), told.keep c.name key)
  | .listener address =>
    Session.Pending.spawn (.report key)
      ⟨[.close address, .release key], c.outcome.map .native⟩ s

def Instance.stop (i : Instance) (s : Stage Script) : Session.Pending Script × Stage Script :=
  s.requestStop i.key (i.control.stop i.key)

namespace Session

variable {W : Type}

/-- Sends to the work of a name. -/
def Stage.sendHand (name : String) (o : Outcome Yield) (s : Stage W) : Option (Bool × Stage W) :=
  (s.hands.get name).map fun work =>
    { s with hands := s.hands.set name none }.send (.hand work) o

/-- The sender held for the work of a name is given up. -/
def Stage.abandonHand (name : String) (s : Stage W) : Option (Stage W) :=
  (s.hands.get name).map fun work =>
    { s with hands := s.hands.set name none }.closeLine (.hand work)

end Session

end ServiceBootstrap
