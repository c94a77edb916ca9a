import ServiceBootstrap.Configuration
import ServiceBootstrap.Failure.Provider

/-!
Starting a server.

What a configuration asks of the network is settled first: the protocol has to be `HTTP`, in any
case of its letters, and the port one that exists, with the default leaving the choice to the
network. Only then is a listener opened and asked for its address; one that does not tell is dropped
again. The server runs with the requested configuration, except that the port is the one its
listener was given.
-/

namespace ServiceBootstrap.Server

/-- Where a listener is to be opened; port zero stands for any free port. -/
structure Request where
  host : String
  port : UInt16
  deriving DecidableEq, Repr, Inhabited

def Request.text (r : Request) : String := r.host ++ ":" ++ toString r.port.toNat

def requestedPort (port : Int32) : Except ProviderFailure UInt16 :=
  if port = Key.defaultPort then .ok 0
  else if 0 ≤ port.toInt ∧ port.toInt < 65536 then .ok (UInt16.ofNat port.toInt.toNat)
  else .error (.invalidPort port)

def speaksHttp (protocol : String) : Bool := protocol.toLower == "http"

/-- What a configuration asks of the network. -/
def request (c : Configuration) : Outcome Request :=
  if speaksHttp c.protocol then
    match requestedPort c.port with
    | .ok port => .ok ⟨c.host, port⟩
    | .error e => .error e.toFailure
  else .error (.unsupportedProtocol c.protocol)

/-- The configuration of a server whose listener has the given address. -/
def running (c : Configuration) (address : SocketAddress) : Configuration :=
  (c.toBuilder.port (Int32.ofNat address.port.toNat)).build

/-- What a start comes to: the configuration the server runs with, and its handle. -/
structure Started where
  configuration : Configuration
  handle : ServerHandle

/-- Why there is no listener. -/
inductive ListenFailure where
  | notBound (cause : IoFailure)
  /-- It was bound, but does not tell its address. -/
  | noAddress (cause : IoFailure)
  deriving DecidableEq, Repr

/-- What the provider makes of it that a listener was asked for in vain. -/
def ListenFailure.toProvider (r : Request) : ListenFailure → ProviderFailure
  | notBound cause => .bind r.text cause
  | noAddress cause => .io cause

/-- Starts a server on a network whose state is of type `σ`. -/
def start {σ : Type} (bind : Request → σ → Except ListenFailure SocketAddress × σ)
    (c : Configuration) (id : InstanceId) (now : Nat) (s : σ) : Outcome Started × σ :=
  match request c with
  | .error e => (.error e, s)
  | .ok r =>
    match bind r s with
    | (.error e, s) => (.error (e.toProvider r).toFailure, s)
    | (.ok address, s) => (.ok ⟨running c address, id, address, now⟩, s)

end ServiceBootstrap.Server
