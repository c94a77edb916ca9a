import ServiceBootstrap.Settings.Load

/-!
The arguments a program is given.

The command is named first, with its options behind it; the switch for logs may stand on either
side. An option has its value behind an equals sign or in the next argument, which then does not
start with a dash, unless it is a dash alone. No option may be given twice on one side. Help is
given as soon as it is asked for, if nothing before it was wrong.
-/

namespace ServiceBootstrap.CommandLine

/-- What an option takes. -/
inductive Kind where
  | nothing
  | text
  /-- A path, which cannot be empty. -/
  | path
  | port
  | seconds
  deriving DecidableEq, Repr

structure Spec where
  name : String
  kind : Kind
  deriving DecidableEq, Repr

def logJson : Spec := ⟨"log-json", .nothing⟩
def config : Spec := ⟨"config", .path⟩
def protocol : Spec := ⟨"protocol", .text⟩
def host : Spec := ⟨"host", .text⟩
def port : Spec := ⟨"port", .port⟩
def rootPath : Spec := ⟨"root-path", .text⟩
def exitAfter : Spec := ⟨"exit-after", .seconds⟩
def json : Spec := ⟨"json", .nothing⟩

def configurationSpecs : List Spec := [logJson, config, protocol, host, port, rootPath]

def serveName : String := "serve"
def showConfigName : String := "show-config"
def helpName : String := "help"

def Kind.placeholder : Kind → String
  | nothing => ""
  | text => " <text>"
  | path => " <path>"
  | port => " <port>"
  | seconds => " <seconds>"

def Spec.usage (s : Spec) : String := " [--" ++ s.name ++ s.kind.placeholder ++ "]"

/-- How the program is to be called, a line for each command. -/
def usage : String :=
  let line (command : String) (specs : List Spec) : String :=
    "bootwire " ++ command ++ String.join (specs.map Spec.usage) ++ "\n"
  line serveName (configurationSpecs ++ [exitAfter]) ++
    line showConfigName (configurationSpecs ++ [json]) ++ line helpName []

/-- Reads decimal digits, of which there has to be one. -/
def digits? (cs : List Char) : Option Nat :=
  if cs ≠ [] ∧ cs.all Char.isDigit then
    some (cs.foldl (fun n c => 10 * n + (c.toNat - '0'.toNat)) 0)
  else none

/-- A number with an optional sign that fits a port. -/
def port? (s : String) : Option UInt16 :=
  let n? := match s.toList with
    | '+' :: cs => digits? cs
    | '-' :: cs => (digits? cs).filter (· = 0)
    | cs => digits? cs
  n?.bind fun n => if n < UInt16.size then some (UInt16.ofNat n) else none

/-- A number of seconds, with an optional plus sign. -/
def seconds? (s : String) : Option UInt64 :=
  let n? := match s.toList with
    | '+' :: cs => digits? cs
    | cs => digits? cs
  n?.bind fun n => if n < UInt64.size then some (UInt64.ofNat n) else none

def Kind.admits (value : String) : Kind → Bool
  | nothing => false
  | text => true
  | path => value ≠ ""
  | port => (port? value).isSome
  | seconds => (seconds? value).isSome

/-- The values of the options that were given; a switch has an empty one. -/
abbrev Given := List (String × String)

inductive Scan where
  | wrong
  | help
  | finished (given : Given)
  /-- A word that is no option, and what stands behind it. -/
  | word (given : Given) (word : String) (rest : List String)

/-- What an argument looks like. -/
inductive Shape where
  /-- Two dashes and nothing else. -/
  | stop
  | long (name : String) (value? : Option String)
  | short (letter : Char)
  | word
  deriving DecidableEq, Repr

def shape (arg : String) : Shape :=
  match arg.toList with
  | ['-', '-'] => .stop
  | '-' :: '-' :: cs =>
    match cs.span (· ≠ '=') with
    | (name, []) => .long (String.ofList name) none
    | (name, _ :: value) => .long (String.ofList name) (some (String.ofList value))
  | '-' :: letter :: _ => .short letter
  | _ => .word

/-- Takes in one option with its value, unless it was given before. -/
def take? (spec : Spec) (value : String) (given : Given) : Option Given :=
  if (given.lookup spec.name).isNone ∧ spec.kind.admits value then
    some ((spec.name, value) :: given)
  else none

def isHelp : Shape → Bool
  | .long name none => name = "help"
  | .short letter => letter = 'h'
  | _ => false

/-- Goes through the arguments up to a word that is no option. An option may be waiting for its
value. -/
def scan (specs : List Spec) : Option Spec → Given → List String → Scan
  | none, given, [] => .finished given
  | some _, _, [] => .wrong
  | some spec, given, arg :: args =>
    match shape arg, take? spec arg given with
    | .word, some given => scan specs none given args
    | _, _ => .wrong
  | none, given, arg :: args =>
    if isHelp (shape arg) then .help
    else
      match shape arg with
      | .stop => if args.isEmpty then .finished given else .wrong
      | .short _ => .wrong
      | .word => .word given arg args
      | .long name value? =>
        match specs.find? (·.name == name), value? with
        | none, _ => .wrong
        | some spec, some value =>
          match take? spec value given with
          | some given => scan specs none given args
          | none => .wrong
        | some spec, none =>
          if spec.kind ≠ .nothing then scan specs (some spec) given args
          else if (given.lookup name).isNone then scan specs none ((name, "") :: given) args
          else .wrong

structure Options where
  config? : Option String := none
  overrides : Settings.Overrides := {}
  deriving DecidableEq, Repr, Inhabited

def options (given : Given) : Options where
  config? := given.lookup config.name
  overrides := {
    protocol? := given.lookup protocol.name
    host? := given.lookup host.name
    port? := ((given.lookup port.name).bind port?).map fun n => Int32.ofNat n.toNat
    rootPath? := given.lookup rootPath.name }

inductive Command where
  | serve (options : Options) (exitAfter? : Option UInt64)
  | showConfig (options : Options) (json : Bool)
  deriving Repr

inductive Parsed where
  | run (command : Command)
  | help
  /-- The arguments do not fit together. -/
  | wrong
  deriving Repr

def parseCommand (specs : List Spec) (make : Given → Command) (args : List String) : Parsed :=
  match scan (configurationSpecs ++ specs) none [] args with
  | .finished given => .run (make given)
  | .help => .help
  | .wrong | .word .. => .wrong

/-- Help on a command, or on all of them. -/
def parseHelp : List String → Parsed
  | [] => .help
  | [name] => if [serveName, showConfigName, helpName].contains name then .help else .wrong
  | _ => .wrong

def parse (args : List String) : Parsed :=
  match scan [logJson] none [] args with
  | .wrong | .finished _ => .wrong
  | .help => .help
  | .word _ name rest =>
    if name = serveName then
      parseCommand [exitAfter]
        (fun given => .serve (options given) ((given.lookup exitAfter.name).bind seconds?)) rest
    else if name = showConfigName then
      parseCommand [json]
        (fun given => .showConfig (options given) (given.lookup json.name).isSome) rest
    else if name = helpName then parseHelp rest
    else .wrong

end ServiceBootstrap.CommandLine
