import ServiceBootstrap.Server.Start

/-!
A host with listeners on its addresses, and no route to anywhere.

A listener can be opened on every IPv4 address, unless the same port of the same address, or of all
addresses, is listened on already. The only name that is known is that of the host itself.
Connections cannot be opened at all.
-/

namespace ServiceBootstrap.Server

structure Network where
  listeners : List SocketAddress
  /-- Where the search for a free port begins. -/
  nextPort : Nat
  deriving DecidableEq, Repr

namespace Network

/-- The first port that is handed out to a listener that may have any. -/
def firstFreePort : Nat := 32768

def new : Network := ⟨[], firstFreePort⟩

def anyAddress : Ipv4 := ⟨0, 0, 0, 0⟩

/-- Whether two listeners cannot be there together. -/
def clash (a b : SocketAddress) : Bool :=
  a.port == b.port && (a.ip == b.ip || a.ip == anyAddress || b.ip == anyAddress)

def addressInUse : IoFailure := ⟨.addrInUse, "Address already in use (os error 98)"⟩

def unknownHost : IoFailure :=
  ⟨.other, "failed to lookup address information: Name or service not known"⟩

def unreachable : IoFailure := ⟨.networkUnreachable, "Network is unreachable (os error 101)"⟩

def occupied (n : Network) (a : SocketAddress) : Bool := n.listeners.any (clash a)

/-- The first port from the search on that no listener has. -/
def freePort (n : Network) : Nat :=
  ((List.range (65536 - n.nextPort)).map (n.nextPort + ·)).find?
    (fun p => n.listeners.all (·.port.toNat != p)) |>.getD n.nextPort

def addressOf? (host : String) : Option Ipv4 :=
  if host = "localhost" then some .loopback else Ipv4.ofText? host

def bind (r : Request) (n : Network) : Except ListenFailure SocketAddress × Network :=
  match addressOf? r.host with
  | none => (.error (.notBound unknownHost), n)
  | some ip =>
    let port := if r.port = 0 then UInt16.ofNat n.freePort else r.port
    let address : SocketAddress := ⟨ip, port⟩
    if n.occupied address then (.error (.notBound addressInUse), n)
    else
      (.ok address,
        { listeners := address :: n.listeners
          nextPort := if r.port = 0 then n.freePort + 1 else n.nextPort })

def close (address : SocketAddress) (n : Network) : Network :=
  { n with listeners := n.listeners.erase address }

end Network

end ServiceBootstrap.Server
