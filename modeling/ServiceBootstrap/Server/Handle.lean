import ServiceBootstrap.InstanceId
import ServiceBootstrap.Server.Address

/-!
What the network provider lets its callers know: the handle of a running server, and the report
handed over when it has stopped.
-/

namespace ServiceBootstrap

structure ServerHandle where
  id : InstanceId
  /-- The address the listener is actually bound to. -/
  address : SocketAddress
  /-- Milliseconds on the provider's clock. -/
  startedAt : Nat
  deriving DecidableEq, Repr, Inhabited

structure ShutdownReport where
  id : InstanceId
  /-- Connections accepted over the life of the instance, no more than the server took steps. -/
  served : Nat
  /-- Connections still open at the stop and cut off; they are among those accepted. -/
  aborted : Nat
  /-- Milliseconds from start to stop. -/
  uptime : Nat
  deriving DecidableEq, Repr, Inhabited

end ServiceBootstrap
