import ServiceBootstrap.Configuration
import ServiceBootstrap.Files
import ServiceBootstrap.Hello.Root
import ServiceBootstrap.Settings
import ServiceBootstrap.Toml.Document

/-!
Finding the settings, and making a builder from them.

A path that is named explicitly is the only one that is tried. Without one, the first candidate
that is a regular file decides alone, with its settings or its failure; without any such file the
defaults hold.
-/

namespace ServiceBootstrap.Settings

inductive LoadFailure where
  | read (path : String) (cause : IoFailure)
  /-- The file is no document. -/
  | malformed (path : String)
  | misfit (path : String) (misfit : Misfit)
  | unknownPolicy (word : ClientAuth.UnknownWord)

namespace LoadFailure

/-- What lies behind a failure. -/
def cause : LoadFailure → String
  | read _ cause => cause.text
  | malformed _ => "not a TOML document"
  | misfit _ m => m.message
  | unknownPolicy e => e.message

def message (e : LoadFailure) : String :=
  match e with
  | read path _ => "failed to read " ++ path ++ ": " ++ e.cause
  | malformed path | misfit path _ => "failed to parse " ++ path ++ ": " ++ e.cause
  | unknownPolicy _ => "invalid value for " ++ Field.clientAuth.name ++ ": " ++ e.cause

end LoadFailure

/-- Where settings came from. -/
inductive Source where
  | file (path : String)
  | defaults
  deriving DecidableEq, Repr

def Source.text : Source → String
  | file path => path
  | defaults => "defaults"

def ofFile (files : Files) (path : String) : Except LoadFailure Settings :=
  match files.readText path with
  | .error e => .error (.read path e)
  | .ok cs =>
    match Toml.parse? cs with
    | none => .error (.malformed path)
    | some es => (decode es).mapError (.misfit path)

def fileName : String := "bootwire.toml"

/-- The paths that are tried without an explicit one: in the working directory, then in the
directory of the user's configuration. -/
def candidates (userDirectory? : Option String) : List String :=
  fileName :: (userDirectory?.map fun d => Files.join (Files.join d "bootwire") fileName).toList

def discover (files : Files) (userDirectory? explicit? : Option String) :
    Except LoadFailure (Settings × Source) :=
  match explicit?.or ((candidates userDirectory?).find? files.isFile) with
  | some path => (ofFile files path).map (·, .file path)
  | none => .ok ({}, .defaults)

/-- Values that go before those of the file. -/
structure Overrides where
  protocol? : Option String := none
  host? : Option String := none
  port? : Option Int32 := none
  rootPath? : Option String := none
  deriving DecidableEq, Repr, Inhabited

/-- A builder with the properties, and over them the settings of the server as they are
overridden. -/
def toBuilder (s : Settings) (o : Overrides) : Except LoadFailure Builder :=
  match ClientAuth.ofWord s.server.clientAuth with
  | .error e => .error (.unknownPolicy e)
  | .ok policy =>
    let b := s.properties.entries.foldl (fun b e => b.property e.1 (some (.text e.2))) Builder.new
    .ok ((((b.protocol (o.protocol?.getD s.server.protocol)).host
      (o.host?.getD s.server.host)).port
      (o.port?.getD s.server.port)).rootPath
      (Hello.normalizeRoot (o.rootPath?.getD s.server.rootPath))
      |>.sslClientAuthentication policy)

/-- What a program runs with: the configuration, and where it came from. -/
def load (files : Files) (userDirectory? explicit? : Option String) (o : Overrides) :
    Except LoadFailure (Configuration × Source) :=
  match discover files userDirectory? explicit? with
  | .error e => .error e
  | .ok (s, source) => (s.toBuilder o).map fun b => (b.build, source)

end ServiceBootstrap.Settings
