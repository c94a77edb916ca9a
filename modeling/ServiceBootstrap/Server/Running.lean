import ServiceBootstrap.Lifecycle
import ServiceBootstrap.Server.Acceptor
import ServiceBootstrap.Server.Handle

/-!
A running server: the loop that accepts its connections, its life, and the work that a stop sets
off.

The first request to stop raises the signal of the loop and leaves behind work that waits for the
loop to end. Then the work gives up the completion, by which the server reads as stopped, and
hands over the report. The request itself comes to its outcome when it is polled after that.
-/

namespace ServiceBootstrap.Server

/-- The work that a stop sets off. -/
inductive StopWork where
  | none
  /-- Waits for the loop to end. -/
  | waiting
  | done (report : ShutdownReport)
  deriving DecidableEq, Repr

/-- The pending outcome of the first request to stop. -/
inductive StopRequest where
  | none
  | pending
  | dropped
  | resolved (report : ShutdownReport)
  deriving DecidableEq, Repr

structure Running where
  handle : ServerHandle
  acceptor : Acceptor := {}
  signal : Signal := {}
  lifecycle : Lifecycle := .start
  /-- How many holders the instance has. -/
  holders : Nat := 1
  work : StopWork := .none
  request : StopRequest := .none
  deriving DecidableEq, Repr

namespace Running

inductive Step where
  | acceptor (s : Acceptor.Step)
  | copy
  /-- A holder lets go of the instance. -/
  | drop
  | stop
  /-- The work that a stop set off goes as far as it can. -/
  | work (now : Nat)
  | poll
  | dropRequest
  deriving DecidableEq, Repr

/-- What is handed over once the loop has ended. -/
def report (r : Running) (now : Nat) : ShutdownReport :=
  { id := r.handle.id
    served := r.acceptor.served
    aborted := r.acceptor.aborted
    uptime := now - r.handle.startedAt }

/-- A step that is not possible changes nothing. -/
def step (r : Running) : Step → Running
  | .acceptor s => { r with acceptor := r.acceptor.step r.signal s }
  | .copy => if 0 < r.holders then { r with holders := r.holders + 1 } else r
  | .drop =>
    { r with
      holders := r.holders - 1
      signal := if r.holders ≤ 1 then { r.signal with closed := true } else r.signal }
  | .stop =>
    if 0 < r.holders then
      match r.lifecycle.request? with
      | some l =>
        { r with
          lifecycle := l
          signal := { r.signal with raised := true }
          work := .waiting
          request := .pending }
      | none => r
    else r
  | .work now =>
    if r.work = .waiting ∧ r.acceptor.stand = .ended then
      { r with lifecycle := r.lifecycle.release, work := .done (r.report now) }
    else r
  | .poll =>
    match r.request, r.work with
    | .pending, .done report =>
      { r with lifecycle := r.lifecycle.conclude, request := .resolved report }
    | _, _ => r
  | .dropRequest => if r.request = .pending then { r with request := .dropped } else r

def run (r : Running) (steps : List Step) : Running := steps.foldl step r

/-- All that a server does on its own after a request to stop. -/
def windDown (now : Nat) : List Step := [.acceptor .observe, .acceptor .cutOff, .work now]

end Running

end ServiceBootstrap.Server
