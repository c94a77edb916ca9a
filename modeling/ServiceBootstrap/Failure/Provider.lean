import ServiceBootstrap.Failure

/-!
What can go wrong inside the network provider, and how callers of the provider see it.

A bind that fails stays a failure of input and output of the same kind, so that callers can tell
an address in use from a refused permission. Everything else that is not already such a failure is
reported as the provider's own.
-/

namespace ServiceBootstrap

inductive ProviderFailure where
  | runtimeBuild (cause : IoFailure)
  | bind (address : String) (cause : IoFailure)
  | invalidPort (port : Int32)
  | acceptLoop (reason : String)
  | io (cause : IoFailure)
  deriving DecidableEq, Repr, Inhabited

namespace ProviderFailure

def message : ProviderFailure → String
  | runtimeBuild cause => "failed to build runtime: " ++ cause.text
  | bind address cause => "failed to bind " ++ address ++ ": " ++ cause.text
  | invalidPort port => "port out of range: " ++ toString port.toInt
  | acceptLoop reason => "accept loop failed: " ++ reason
  | io cause => cause.text

def toFailure (e : ProviderFailure) : Failure :=
  match e with
  | bind _ cause => .io ⟨cause.kind, e.message⟩
  | io cause => .io cause
  | runtimeBuild _ | invalidPort _ | acceptLoop _ => .providerFailed e.message

end ProviderFailure

end ServiceBootstrap
