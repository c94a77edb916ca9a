import ServiceBootstrap.CommandLine
import ServiceBootstrap.Hello.Serve
import ServiceBootstrap.Registry
import ServiceBootstrap.Server.Host
import ServiceBootstrap.View.Json

/-!
The program: what it does with its arguments, and what it says.

Showing the configuration and serving load it in the same way. Serving starts the greeting
application on the provider that the registry gives, announces the instance, waits, stops it and
tells what became of it.
-/

namespace ServiceBootstrap.Program

/-- What a run of the program leaves behind. -/
structure Report where
  code : Nat
  output : String
  errors : String
  deriving DecidableEq, Repr

def succeeded (output : String) : Report := ⟨0, output, ""⟩

/-- Lines behind the first are indented like the first. -/
def indented (text : String) : String := "    " ++ text.replace "\n" "\n    "

/-- What is said of a failure: what went wrong, and what lies behind it. -/
def describeFailure (what cause : String) : String :=
  "Error: " ++ what ++ "\n\nCaused by:\n" ++ indented cause ++ "\n"

def failed (what cause : String) : Report := ⟨1, "", describeFailure what cause⟩

/-- What is around a program. -/
structure Surroundings where
  files : Files
  /-- The directory of the user's configuration. -/
  userDirectory? : Option String
  host : Server.Host

def load (s : Surroundings) (o : CommandLine.Options) :
    Except Settings.LoadFailure (Configuration × Settings.Source) :=
  Settings.load s.files s.userDirectory? o.config? o.overrides

def showConfig (s : Surroundings) (o : CommandLine.Options) (json : Bool) : Report :=
  match load s o with
  | .error e => failed e.message e.cause
  | .ok (c, source) =>
    let view := View.ofConfiguration c source
    succeeded (String.ofList (if json then view.json else view.toml))

def describeInstance (s : Server.Hosted) : String :=
  let c := s.configuration
  "Instance " ++ s.server.handle.id.text ++ " running at " ++ c.protocol.toLower ++ "://" ++
    c.host ++ ":" ++ toString c.port.toInt ++ c.rootPath ++ " [native handle: " ++
    s.server.handle.address.text ++ "]"

/-- Milliseconds in seconds, to the nearest tenth. -/
def describeUptime (milliseconds : Nat) : String :=
  let tenths := (milliseconds + 50) / 100
  toString (tenths / 10) ++ "." ++ toString (tenths % 10) ++ "s"

def describeStop (r : ShutdownReport) : String :=
  "Stop result: instance " ++ r.id.text ++ " [native stop result: served " ++ toString r.served ++
    " connection(s), aborted " ++ toString r.aborted ++ ", up " ++ describeUptime r.uptime ++ "]"

/-- Said where nothing but a signal ends the program. -/
def waitingLine : String := "Press Ctrl-C to shut down."

def lines (ls : List String) : String := String.join (ls.map (· ++ "\n"))

/-- The name of the only instance a program runs. -/
def slot : Server.Slot := "instance"

/-- What is said once the instance is there. -/
def announcement (s : Server.Hosted) (exitAfter? : Option UInt64) : List String :=
  describeInstance s :: if exitAfter?.isSome then [] else [waitingLine]

/-- The providers of a program: the network provider alone. -/
def providers : Registry Unit Unit := Registry.new.register "tokio" ()

def makeProvider (_ : String) (_ : Unit) (h : Server.Host) : Attempt Unit × Server.Host :=
  match h.runtime with
  | .ok () => (.made (), h)
  | .error e => (.failed e, h)

/-- A program that panics. -/
def panicked (message : String) : Report := ⟨101, "", message⟩

/-- Starts the instance on the provider of the registry. Without an instance, the report is all
there is to say. -/
def startInstance (c : Configuration) (h : Server.Host) :
    Except Report Server.Hosted × Server.Host :=
  match providers.locate makeProvider (fun _ h => h) h with
  | (.failed e, _, h) =>
    (.error (failed "no runtime available to start the application" e.message), h)
  | (.panicked message, _, h) => (.error (panicked message), h)
  | (.made (), _, h) =>
    match h.bootstrap slot c with
    | (.error e, h) => (.error (failed "application failed to start" e.message), h)
    | (.ok server, h) => (.ok server, h)

/-- Serves until it is time to stop. -/
def serve (s : Surroundings) (o : CommandLine.Options) (exitAfter? : Option UInt64) :
    Report × Server.Host :=
  match load s o with
  | .error e => (failed e.message e.cause, s.host)
  | .ok (c, _) =>
    match startInstance c s.host with
    | (.error report, host) => (report, host)
    | (.ok server, host) =>
      let said := announcement server exitAfter?
      let host := host.settle (1000 * (exitAfter?.getD 0).toNat)
      match host.stop slot server with
      | (.error e, host) =>
        ({ failed "application failed to stop" e.message with output := lines said }, host)
      | (.ok report, host) => (succeeded (lines (said ++ [describeStop report])), host)

/-- Arguments that do not fit together are a failure of their own. -/
def misused : Report := ⟨2, "", CommandLine.usage⟩

def runCommand (s : Surroundings) : CommandLine.Command → Report × Server.Host
  | .serve o exitAfter? => serve s o exitAfter?
  | .showConfig o json => (showConfig s o json, s.host)

/-- What a run says, and the host it leaves behind. -/
def runOn (s : Surroundings) (args : List String) : Report × Server.Host :=
  match CommandLine.parse args with
  | .run command => runCommand s command
  | .help => (succeeded CommandLine.usage, s.host)
  | .wrong => (misused, s.host)

def run (s : Surroundings) (args : List String) : Report := (runOn s args).1

end ServiceBootstrap.Program
