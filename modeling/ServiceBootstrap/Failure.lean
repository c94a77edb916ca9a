import ServiceBootstrap.Failure.InputOutput
import ServiceBootstrap.InstanceId
import ServiceBootstrap.Value.Type

/-!
What can go wrong when a service is started or stopped, one constructor for each cause.
-/

namespace ServiceBootstrap

inductive Failure where
  | unsupported (reason : String)
  | registryLocked (provider : String)
  | typeMismatch (name : String) (expected found : ValueType)
  | alreadyStopped (id : InstanceId)
  | unsupportedProtocol (protocol : String)
  | abandoned
  | providerFailed (reason : String)
  | io (failure : IoFailure)
  deriving DecidableEq, Repr, Inhabited

namespace Failure

def message : Failure → String
  | unsupported reason => "no bootstrap provider available: " ++ reason
  | registryLocked provider =>
    "provider registry already resolved, cannot register " ++ provider
  | typeMismatch name expected found =>
    "type mismatch for " ++ name ++ ": expected " ++ expected.name ++ ", found " ++ found.name
  | alreadyStopped id => "instance " ++ id.text ++ " is already stopped"
  | unsupportedProtocol protocol => "unsupported protocol: " ++ protocol
  | abandoned => "operation abandoned before completion"
  | providerFailed reason => "provider failed: " ++ reason
  | io failure => failure.text

end Failure

/-- The outcome of work that can fail. -/
abbrev Outcome (α : Type) := Except Failure α

end ServiceBootstrap
