import ServiceBootstrap.Hello.Script
import ServiceBootstrap.Program
import Std.Async.DNS
import Std.Async.Signal
import Std.Async.TCP
import Std.Async.Timer
import Std.Sync.Channel

/-!
The program on a machine, with its files, its network and its signals.

Whatever happens around the server is put on one channel: connections, handlers that are done,
requests to stop. The server takes its steps in the order of that channel.
-/

namespace ServiceBootstrap.Machine

open Std Async Net

/-! Failures -/

/-- A failure of the system, by its number. -/
def failureOfCode (code : Nat) (details : String) : IoFailure :=
  match code with
  | 2 => Files.notFound
  | 20 => Files.notADirectory
  | 21 => Files.isADirectory
  | 36 => Files.nameTooLong
  | 98 => Server.Network.addressInUse
  | 101 => Server.Network.unreachable
  | 13 => ⟨.permissionDenied, "Permission denied (os error 13)"⟩
  | 99 => ⟨.addrNotAvailable, "Cannot assign requested address (os error 99)"⟩
  | code => ⟨.other, details ++ " (os error " ++ toString code ++ ")"⟩

def ioFailure (e : IO.Error) : IoFailure :=
  match e with
  | .noFileOrDirectory _ n d | .interrupted _ n d | .alreadyExists _ n d | .invalidArgument _ n d
  | .permissionDenied _ n d | .resourceExhausted _ n d | .inappropriateType _ n d
  | .noSuchThing _ n d | .otherError n d | .resourceBusy n d | .resourceVanished n d
  | .unsupportedOperation n d | .hardwareFault n d | .unsatisfiedConstraints n d
  | .illegalOperation n d | .protocolError n d | .timeExpired n d =>
    failureOfCode n.toInt32.toInt.natAbs d
  | .unexpectedEof => ⟨.unexpectedEof, e.toString⟩
  | .userError text => ⟨.other, text⟩

def attempt {α : Type} (action : IO α) : IO (Except IoFailure α) := do
  try return .ok (← action)
  catch e => return .error (ioFailure e)

/-! Files -/

def readBytes (path : String) : IO (Except IoFailure (List UInt8)) := do
  if path.any (· = '\x00') then return .error Files.nulInName
  return (← attempt (IO.FS.readBinFile path)).map (·.data.toList)

/-- Whether what was read, or the failure to read it, speaks for a file. -/
def speaksForFile : Except IoFailure (List UInt8) → Bool
  | .ok _ => true
  | .error e => e.kind = .permissionDenied

/-- The given paths as they are now; no other path leads anywhere. -/
def lookAt (paths : List String) : IO Files := do
  let seen ← paths.mapM fun path => return (path, ← readBytes path)
  let found (path : String) := (seen.lookup path).getD (.error Files.notFound)
  return ⟨speaksForFile ∘ found, found⟩

def userDirectory? : IO (Option String) := do
  match (← IO.getEnv "XDG_CONFIG_HOME").filter (·.startsWith "/") with
  | some path => return some path
  | none => return (← IO.getEnv "HOME").map (· ++ "/.config")

def surroundings (o : CommandLine.Options) : IO Program.Surroundings := do
  let userDirectory? ← userDirectory?
  let files ← lookAt (o.config?.toList ++ Settings.candidates userDirectory?)
  return { files, userDirectory?, host := {} }

/-! Output -/

def say (text : String) : IO Unit := do
  let out ← IO.getStdout
  out.putStr text
  out.flush

def conclude (r : Program.Report) : IO UInt32 := do
  say r.output
  IO.eprint r.errors
  return UInt32.ofNat r.code

/-! Connections -/

inductive Happening where
  | accepted (connection : TCP.Socket.Client)
  | failedToAccept
  | handled (handler : Nat)
  | askedToStop
  deriving Inhabited

abbrev Happenings := Channel Happening

def tell (happenings : Happenings) (h : Happening) : BaseIO Unit := discard (happenings.send h)

/-- What a read fails with where nothing has come in yet. -/
def notYet : IoFailure := ⟨.wouldBlock, "Resource temporarily unavailable (os error 11)"⟩

/-- Serves a connection on what has come in so far; while that is not enough, more is heard. -/
def handle (root : String) (connection : TCP.Socket.Client) : Async Unit := do
  let mut heard : List Hello.Chunk := []
  repeat
    let (served, script) :=
      Hello.serve Hello.Script.wire root { incoming := heard ++ [.fails notYet] }
    if served.isOk then
      connection.send ⟨script.written.toArray⟩
      connection.shutdown
      break
    let bytes? ← connection.recv? (UInt64.ofNat Hello.readLimit)
    heard := heard ++ [.bytes (bytes?.elim [] (·.data.toList))]

/-- How long a server waits after a failure to accept, in milliseconds. -/
def backoff : UInt32 := 50

def acceptAll (listener : TCP.Socket.Server) (happenings : Happenings) : Async Unit := do
  repeat
    let happening ←
      try pure (Happening.accepted (← listener.accept))
      catch _ => pure .failedToAccept
    tell happenings happening
    if happening matches .failedToAccept then IO.sleep backoff

def startHandler (root : String) (happenings : Happenings) (handler : Nat)
    (connection : TCP.Socket.Client) : IO Unit := do
  let work : Async Unit := do
    try handle root connection catch _ => pure ()
    tell happenings (.handled handler)
  discard work.asTask

/-! The server -/

def addresses (host : String) : IO (Except IoFailure (List IPv4Addr)) := do
  match Ipv4.ofText? host with
  | some ip => return .ok [.ofParts ip.a ip.b ip.c ip.d]
  | none =>
    let found ← attempt (DNS.getAddrInfo host "" (some .ipv4)).block
    return match found with
      | .error _ => .error Server.Network.unknownHost
      | .ok found => .ok (found.toList.filterMap fun | .v4 ip => some ip | .v6 _ => none)

def listen (ip : IPv4Addr) (port : UInt16) : IO (TCP.Socket.Server × IPv4Addr) := do
  let listener ← TCP.Socket.Server.mk
  listener.bind (.v4 ⟨ip, port⟩)
  listener.listen 1024
  return (listener, ip)

def addressOf (listener : TCP.Socket.Server) (ip : IPv4Addr) : IO SocketAddress := do
  let port := match ← listener.getSockName with
    | .v4 address => address.port
    | .v6 address => address.port
  return ⟨⟨ip.octets[0], ip.octets[1], ip.octets[2], ip.octets[3]⟩, port⟩

/-- Opens a listener on the first address of the host that lets it. -/
def bind (r : Server.Request) :
    IO (Except Server.ListenFailure (TCP.Socket.Server × SocketAddress)) := do
  let mut last := .error Server.Network.unknownHost
  match ← addresses r.host with
  | .error e => last := .error e
  | .ok ips =>
    for ip in ips do
      last ← attempt (listen ip r.port)
      if last.isOk then break
  match last with
  | .error cause => return .error (.notBound cause)
  | .ok (listener, ip) =>
    return match ← attempt (addressOf listener ip) with
      | .error cause => .error (.noAddress cause)
      | .ok address => .ok (listener, address)

def freshId : IO InstanceId := do
  let bytes ← IO.getRandomBytes 16
  return .random (.ofNat 128 (bytes.data.foldl (fun n b => 256 * n + b.toNat) 0))

/-- Waits for a stop to be asked for, while the server goes on. -/
def attend (root : String) (happenings : Happenings) (server : Server.Running) :
    IO Server.Running := do
  let mut server := server
  let mut handlers : List Nat := []
  repeat
    match ← IO.wait (← happenings.recv) with
    | .accepted connection =>
      let handler := server.acceptor.served
      server := server.step (.acceptor .accept)
      handlers := handlers ++ [handler]
      startHandler root happenings handler connection
    | .failedToAccept => server := server.run [.acceptor .acceptFails, .acceptor .resume]
    | .handled handler =>
      let place := handlers.idxOf handler
      server := server.run [.acceptor (.finish place), .acceptor (.reap place)]
      handlers := handlers.eraseIdx place
    | .askedToStop => break
  return server

/-- Has a stop asked for by signals, and when the time is over. -/
def awaitStop (happenings : Happenings) (exitAfter? : Option UInt64) : IO Unit := do
  for signal in [Signal.sigint, Signal.sigterm] do
    let received ← (← Signal.Waiter.mk signal false).wait
    discard (received.mapIO fun _ => tell happenings .askedToStop)
  if let some seconds := exitAfter? then
    let work : Async Unit := do
      sleep (.ofNat (1000 * seconds.toNat))
      tell happenings .askedToStop
    discard work.asTask

open Program in
def serve (s : Program.Surroundings) (o : CommandLine.Options) (exitAfter? : Option UInt64) :
    IO Program.Report := do
  match load s o with
  | .error e => return failed e.message e.cause
  | .ok (c, _) =>
    let bound ← match Server.request c with
      | .ok r => bind r
      | .error _ => pure (.error (.notBound Server.Network.unknownHost))
    let (started, _) := Server.start (fun _ _ => (bound.map (·.2), ())) c (← freshId)
      (← IO.monoMsNow) ()
    match started, bound with
    | .ok started, .ok (listener, _) =>
      let happenings ← Channel.new
      awaitStop happenings exitAfter?
      let hosted : Server.Hosted := ⟨started.configuration, { handle := started.handle }⟩
      say (lines (announcement hosted exitAfter?))
      discard (acceptAll listener happenings).asTask
      let server ← attend c.rootPath happenings hosted.server
      let server := server.run (.stop :: Server.Running.windDown (← IO.monoMsNow) ++ [.poll])
      match server.request with
      | .resolved report => return succeeded (lines [describeStop report])
      | _ => return failed "application failed to stop" Failure.abandoned.message
    | .error e, _ => return failed "application failed to start" e.message
    | .ok _, .error _ => return failed "application failed to start" Failure.abandoned.message

def run (args : List String) : IO Program.Report := do
  match CommandLine.parse args with
  | .run (.serve o exitAfter?) => serve (← surroundings o) o exitAfter?
  | .run (.showConfig o _) => return Program.run (← surroundings o) args
  | .help | .wrong => return Program.run (← surroundings {}) args

end ServiceBootstrap.Machine

def main (args : List String) : IO UInt32 := do
  ServiceBootstrap.Machine.conclude (← ServiceBootstrap.Machine.run args)
