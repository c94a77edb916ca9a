import ServiceBootstrap.Registry
import ServiceBootstrap.Session.Script

/-!
The providers of a session: providers that follow a plan, and the network provider.

A planned provider starts nothing. It gives out ports and identifiers in order, and the instance
it makes is there at the second poll. The network provider spawns each start on a scheduler of its
own, so the listener is opened whether or not anybody waits for the outcome.
-/

namespace ServiceBootstrap.Session

/-- What one call of a factory does. -/
inductive FactoryStep where
  | succeed
  | fail (failure : Failure)
  | panic (message : String)
  deriving DecidableEq, Repr

/-- The plan of a provider. -/
structure Plan where
  /-- The name the provider itself goes by. -/
  display : String
  /-- What the calls of the factory do in turn; the last entry holds for all further calls. -/
  factory : List FactoryStep
  /-- The properties its builders start with. -/
  seed : List (String × Option Value)
  /-- Fails every start. -/
  failure? : Option Failure
  /-- The native handle of its instances. -/
  native? : Option Value
  controlKind : Control.Kind
  controlOutcome : Outcome (Option Value)
  firstPort : Int32

inductive ProviderKind where
  | planned (plan : Plan)
  | network

structure Factory where
  number : Nat
  kind : ProviderKind

structure Provider where
  number : Nat
  kind : ProviderKind

def Provider.display (p : Provider) : String :=
  match p.kind with
  | .planned plan => plan.display
  | .network => networkName

/-- What the call of a given count does; the first call has count one. -/
def Plan.step (plan : Plan) (count : Nat) : FactoryStep :=
  (plan.factory[count - 1]?.or plan.factory.getLast?).getD .succeed

def Stage.makeProvider (kind : ProviderKind) (s : Stage Script) : Provider × Stage Script :=
  (⟨s.nextProvider, kind⟩, { s with nextProvider := s.nextProvider + 1 })

def Factory.call (name : String) (f : Factory) (s : Stage Script) :
    Attempt Provider × Stage Script :=
  match f.kind with
  | .network =>
    let (p, s) := s.makeProvider .network
    (.made p, s)
  | .planned plan =>
    let count := s.calls.get f.number + 1
    let s := { s with calls := s.calls.set f.number count }.say (.factoryCall name count)
    match plan.step count with
    | .succeed =>
      let (p, s) := s.makeProvider (.planned plan)
      (.made p, s)
    | .fail e => (.failed e, s)
    | .panic message => (.panicked message, s)

abbrev ProviderRegistry := Registry Factory Provider

def locate (r : ProviderRegistry) (s : Stage Script) :
    Attempt Provider × ProviderRegistry × Stage Script :=
  r.locate Factory.call Stage.report s

/-- Sets a property, and reports a value that is ignored. -/
def setProperty (b : Builder) (name : String) (v? : Option Value) (s : Stage Script) :
    Builder × Stage Script :=
  let s := match Event.ofProperty name v? with
    | some e => s.report e
    | none => s
  (b.property name v?, s)

/-- The builder that a provider hands out. -/
def Provider.builder (p : Provider) (s : Stage Script) : Builder × Stage Script :=
  match p.kind with
  | .network => (.new, s)
  | .planned plan => plan.seed.foldl (fun (b, s) e => setProperty b e.1 e.2 s) (.new, s)

/-- The next port a provider gives out. -/
def Stage.takePort (p : Provider) (first : Int32) (s : Stage Script) : Int32 × Stage Script :=
  let taken := s.ports.get p.number
  (first + Int32.ofNat taken, { s with ports := s.ports.set p.number (taken + 1) })

/-- The instance that a planned provider makes, on the given port. -/
def Plan.makeInstance (plan : Plan) (c : Configuration) (port : Int32) (s : Stage Script) :
    Instance × Stage Script :=
  let (key, t) := s.addInstance (.ofNat s.nextId)
  ({ key
     configuration := (c.toBuilder.port port).build
     native? := plan.native?
     control := ⟨plan.display ++ "-" ++ toString s.nextId, plan.controlKind, plan.controlOutcome⟩ },
    { t with nextId := s.nextId + 1 })

def Plan.bootstrap (plan : Plan) (p : Provider) (application : String) (c : Configuration)
    (s : Stage Script) : Pending Script × Stage Script :=
  let s := s.say (.bootstrap application plan.display)
  match plan.failure? with
  | some e => (.failed e, s)
  | none =>
    if c.protocol = Key.defaultProtocol then
      let (port, s) := if c.port = Key.defaultPort then s.takePort p plan.firstPort else (c.port, s)
      let (i, s) := plan.makeInstance c port s
      (.future ⟨[.pause], .ok (.started i)⟩, s)
    else (.failed (.unsupportedProtocol c.protocol), s)

/-- Identifiers of servers are taken at random; here they tell the instances of a session apart. -/
def Stage.serverId (s : Stage Script) : InstanceId := .random (.ofNat 128 s.nextInstance)

/-- What the network provider has to do for a start. -/
def startWork (key : InstanceKey) (c : Configuration) : Script :=
  ⟨[.openListener key c], .error .abandoned⟩

/-- Has a server started by the network provider. -/
def bootstrapServer (c : Configuration) (s : Stage Script) : Pending Script × Stage Script :=
  let (key, s) := s.addInstance s.serverId
  Session.Pending.spawn (.started key) (startWork key c) s

def Provider.bootstrap (p : Provider) (application : String) (c : Configuration)
    (s : Stage Script) : Pending Script × Stage Script :=
  match p.kind with
  | .planned plan => plan.bootstrap p application c s
  | .network => bootstrapServer c s

/-- Starts an application on a provider. -/
def Provider.start (p : Provider) (application : String) (c : Configuration) (s : Stage Script) :
    Pending Script × Stage Script :=
  p.bootstrap application c (s.report (.bootstrapping p.display application c))

end ServiceBootstrap.Session
