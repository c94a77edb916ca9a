import ServiceBootstrap.Server.Network

/-!
The network provider, which starts servers.

It opens their listeners on a network, and runs them on a scheduler of its own. The scheduler goes
with the provider: after that nothing is started any more, and no listener is left.
-/

namespace ServiceBootstrap.Server

structure Provider where
  network : Network := .new
  /-- How listeners are opened. -/
  bind : Request → Network → Except ListenFailure SocketAddress × Network := Network.bind
  /-- Whether the provider is still there. -/
  alive : Bool := true

namespace Provider

/-- Starts a server. A provider that is gone asks nothing of the network. -/
def start (c : Configuration) (id : InstanceId) (now : Nat) (p : Provider) :
    Outcome Started × Provider :=
  if p.alive then
    let (o, network) := Server.start p.bind c id now p.network
    (o, { p with network })
  else (.error .abandoned, p)

/-- A provider does not go by what it is asked for. -/
@[simp] theorem alive_start (c : Configuration) (id : InstanceId) (now : Nat) (p : Provider) :
    (p.start c id now).2.alive = p.alive := by
  unfold start
  split <;> rfl

/-- The listener at an address goes. -/
def close (address : SocketAddress) (p : Provider) : Provider :=
  { p with network := p.network.close address }

/-- The provider goes, and all listeners with it. -/
def drop (p : Provider) : Provider :=
  { p with alive := false, network := { p.network with listeners := [] } }

end Provider

end ServiceBootstrap.Server
