import ServiceBootstrap.Configuration.Description
import ServiceBootstrap.Lifecycle

/-!
Running instances, and what a stop hands over.

How an instance is stopped is its control's business. A control is told once, and is given a
completion; the instance reads as stopped as soon as the control gives the completion up. Controls
differ in where they put the completion, and in how they come to their outcome.
-/

namespace ServiceBootstrap

/-- Tells instances apart, also those that carry the same identifier. -/
structure InstanceKey where
  number : Nat
  id : InstanceId
  deriving DecidableEq, Repr, Inhabited

namespace Control

inductive Kind where
  /-- Gives the completion up at once and is done. -/
  | immediate
  /-- Keeps the completion in work that goes on when the stop is waited for. -/
  | lazy
  /-- Keeps the completion in work of the scheduler. -/
  | spawned
  /-- Leaves the completion and the outcome to others. -/
  | manual
  /-- Keeps the completion in work of the network provider, which closes the listener at an
  address. -/
  | listener (address : SocketAddress)
  deriving DecidableEq, Repr, Inhabited

end Control

structure Control where
  name : String
  kind : Control.Kind
  /-- What the stop comes to; a manual control is told later. -/
  outcome : Outcome (Option Value)

structure Instance where
  key : InstanceKey
  configuration : Configuration
  native? : Option Value
  control : Control

/-- What a successful stop hands over. -/
structure StopResult where
  id : InstanceId
  native? : Option Value
  deriving DecidableEq, Repr

/-- A native handle as a value of type `expected`; nothing if the provider exposes none. -/
def unwrapNative (native? : Option Value) (name : String) (expected : ValueType) :
    Outcome (Option Value) :=
  match native? with
  | some v => (v.cast expected name).map some
  | none => .ok none

def describeNative : Option Value → String
  | some v => "Some(" ++ v.describe ++ ")"
  | none => "None"

namespace Instance

def unwrap (i : Instance) (expected : ValueType) : Outcome (Option Value) :=
  unwrapNative i.native? "instance native handle" expected

def describe (i : Instance) (phase : Phase) : String :=
  "Instance \x7b id: " ++ i.key.id.text ++ ", state: " ++ phase.name ++ ", configuration: " ++
    i.configuration.describe ++ ", native: " ++ describeNative i.native? ++ " \x7d"

end Instance

namespace StopResult

def unwrap (r : StopResult) (expected : ValueType) : Outcome (Option Value) :=
  unwrapNative r.native? "stop result native handle" expected

def describe (r : StopResult) : String :=
  "StopResult \x7b instance_id: " ++ r.id.text ++ ", native: " ++ describeNative r.native? ++
    " \x7d"

end StopResult

end ServiceBootstrap
