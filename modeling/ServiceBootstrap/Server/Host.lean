import ServiceBootstrap.Server.Provider
import ServiceBootstrap.Server.Running
import ServiceBootstrap.Table

/-!
One host with the network provider on it: its servers, kept in slots, and what their callers see.

Once the provider is dropped, nothing that is left to its scheduler comes to an end: starts and
stops are abandoned, and the completion of a stop is given up at once.
-/

namespace ServiceBootstrap.Server

abbrev Slot := String

/-- A server as its holder knows it. -/
structure Hosted where
  configuration : Configuration
  server : Running

namespace Hosted

def phase (s : Hosted) : Phase := s.server.lifecycle.phase

def native (s : Hosted) : Value := .serverHandle s.server.handle

end Hosted

structure Host extends Provider where
  /-- Whether a provider can be made. -/
  runtime : Outcome Unit := .ok ()
  /-- In milliseconds. -/
  clock : Nat := 0
  nextId : Nat := 1
  servers : Table Slot (Option Hosted) := .const none
  /-- Where the servers were started, also those that nobody holds any more. -/
  addresses : Table Slot (Option SocketAddress) := .const none

namespace Host

def put (i : Slot) (server : Hosted) (h : Host) : Host :=
  { h with servers := h.servers.set i (some server) }

/-- Starts a server on the provider. -/
def bootstrap (i : Slot) (c : Configuration) (h : Host) : Outcome Hosted × Host :=
  let (o, provider) := h.toProvider.start c (.ofNat h.nextId) h.clock
  let h := { h with toProvider := provider, nextId := h.nextId + 1 }
  match o with
  | .error e => (.error e, h)
  | .ok started =>
    let server : Hosted := ⟨started.configuration, { handle := started.handle }⟩
    (.ok server,
      { h.put i server with addresses := h.addresses.set i (some started.handle.address) })

/-- Runs a server on; its listener is closed when it no longer listens. -/
def advance (i : Slot) (server : Hosted) (steps : List Running.Step) (h : Host) : Host :=
  let after := server.server.run steps
  let h := h.put i { server with server := after }
  if after.acceptor.listening then h
  else { h with toProvider := h.toProvider.close after.handle.address }

/-- A stop whose work is given up as soon as it is there. -/
def abandonStop (i : Slot) (server : Hosted) (h : Host) : Host :=
  let asked := server.server.step .stop
  let lifecycle := asked.lifecycle.release.conclude
  h.put i { server with server := { asked with lifecycle } }

/-- Stops the server in a slot and waits for the outcome. -/
def stop (i : Slot) (server : Hosted) (h : Host) : Outcome ShutdownReport × Host :=
  if server.phase = .running then
    if h.alive then
      let h := h.advance i server (.stop :: Running.windDown h.clock ++ [.poll])
      match (h.servers.get i).map (fun s : Hosted => s.server.request) with
      | some (.resolved report) => (.ok report, h)
      | _ => (.error .abandoned, h)
    else (.error .abandoned, h.abandonStop i server)
  else (.error (.alreadyStopped server.server.handle.id), h)

/-- Stops the server in a slot and waits, without the outcome, until it reads as stopped. -/
def stopUnawaited (i : Slot) (server : Hosted) (h : Host) : Host :=
  if h.alive then h.advance i server (.stop :: .dropRequest :: Running.windDown h.clock)
  else h.abandonStop i server

/-- The holder lets go of a server, which goes on serving. -/
def drop (i : Slot) (h : Host) : Host := { h with servers := h.servers.set i none }

def dropProvider (h : Host) : Host := { h with toProvider := h.toProvider.drop }

/-- Opens a connection to a server. -/
def connect (_ : SocketAddress) (_ : Host) : Except IoFailure Unit := .error Network.unreachable

def settle (milliseconds : Nat) (h : Host) : Host := { h with clock := h.clock + milliseconds }

end Host

end ServiceBootstrap.Server
