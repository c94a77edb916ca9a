/-!
The life of one instance.

An instance runs until it is first asked to stop. From then on it is stopping, until either the
provider gives up the completion it was handed or the stop comes to its outcome, whichever is
first; then it is stopped for good. Besides the phase, the record keeps what became of the
completion and whether the stop has come to its outcome.
-/

namespace ServiceBootstrap

inductive Phase where
  | running
  | stopping
  | stopped
  deriving DecidableEq, Repr, Inhabited

def Phase.name : Phase → String
  | running => "Running"
  | stopping => "Stopping"
  | stopped => "Stopped"

/-- What became of the completion that a stop hands to the provider. -/
inductive Completion where
  | unissued
  | held
  | dropped
  deriving DecidableEq, Repr, Inhabited

structure Lifecycle where
  phase : Phase
  completion : Completion
  concluded : Bool
  deriving DecidableEq, Repr, Inhabited

namespace Lifecycle

def start : Lifecycle := ⟨.running, .unissued, false⟩

/-- A request to stop is granted once, to a running instance. -/
def request? (l : Lifecycle) : Option Lifecycle :=
  if l.phase = .running then some { l with phase := .stopping, completion := .held } else none

/-- The provider gives up the completion. -/
def release (l : Lifecycle) : Lifecycle :=
  if l.completion = .held then { l with phase := .stopped, completion := .dropped } else l

/-- Whether giving up the completion is what stops the instance. -/
def stopsOnRelease (l : Lifecycle) : Bool := l.completion = .held && l.phase != .stopped

/-- The stop comes to its outcome. -/
def conclude (l : Lifecycle) : Lifecycle := { l with phase := .stopped, concluded := true }

end Lifecycle

end ServiceBootstrap
