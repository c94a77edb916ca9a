import ServiceBootstrap.Session.Command

/-!
Running a session: each command acts on the slots and the stage, and is answered.

Builders and configurations are values, so a copy is detached from what it was copied from.
Instances are shared by their copies. A pending outcome is used up by the poll that gives its
outcome, and by everything that builds another pending outcome on it.
-/

namespace ServiceBootstrap.Session

/-- A pending outcome, and the kind of success it can have. -/
structure Held where
  kind : YieldKind
  pending : Pending Script

structure State where
  stage : Stage Script := {}
  builders : Table Slot (Option Builder) := .const none
  configurations : Table Slot (Option Configuration) := .const none
  /-- The number of the registry in a slot; the process-wide registry has number zero. -/
  registryNumbers : Table Slot (Option Nat) := .const none
  registries : Table Nat ProviderRegistry := .const .new
  nextRegistry : Nat := 1
  /-- The provider that the last look-up through a slot gave. -/
  located : Table Slot (Option Nat) := .const none
  instances : Table Slot (Option Instance) := .const none
  stops : Table Slot (Option StopResult) := .const none
  pendings : Table Slot (Option Held) := .const none

namespace State

def withStage (s : State) (stage : Stage Script) : State := { s with stage }

def putBuilder (b : Slot) (builder : Builder) (s : State) : State :=
  { s with builders := s.builders.set b (some builder) }

def putConfiguration (c : Slot) (configuration : Configuration) (s : State) : State :=
  { s with configurations := s.configurations.set c (some configuration) }

def putInstance (i : Slot) (it : Instance) (s : State) : State :=
  { s with instances := s.instances.set i (some it) }

/-- Puts a pending outcome into a slot; one that was there is given up. -/
def putPending (p : Slot) (kind : YieldKind) (pending : Pending Script) (s : State) : State :=
  let stage := match s.pendings.get p with
    | some old => old.pending.abandon s.stage
    | none => s.stage
  { s with stage, pendings := s.pendings.set p (some ⟨kind, pending⟩) }

def usePending (p : Slot) (s : State) : State := { s with pendings := s.pendings.set p none }

end State

/-- Applies a setting; a value of the wrong type is reported and ignored. -/
def Setting.apply (setting : Setting) (b : Builder) (s : Stage Script) :
    Builder × Stage Script :=
  match setting with
  | property name v? => setProperty b name v? s
  | protocol v => (b.protocol v, s)
  | host v => (b.host v, s)
  | port n => (b.port n, s)
  | rootPath v => (b.rootPath v, s)
  | sslContext v => (b.sslContext v, s)
  | sslClientAuthentication policy => (b.sslClientAuthentication policy, s)

/-- Answers a command about a slot by what is in it. -/
def withSlot {α : Type} (table : Table Slot (Option α)) (slot : Slot) (s : State)
    (f : α → Reply × State) : Reply × State :=
  match table.get slot with
  | some a => f a
  | none => (.gone, s)

namespace ConfigurationCommand

def run (command : ConfigurationCommand) (s : State) : Reply × State :=
  match command with
  | new b => (.nothing, s.putBuilder b .new)
  | set b setting =>
    withSlot s.builders b s fun builder =>
      let (builder, stage) := setting.apply builder s.stage
      (.text builder.describe, (s.withStage stage).putBuilder b builder)
  | copyBuilder b target =>
    withSlot s.builders b s fun builder => (.nothing, s.putBuilder target builder)
  | copyConfiguration c target =>
    withSlot s.configurations c s fun it => (.nothing, s.putConfiguration target it)
  | describeBuilder b =>
    withSlot s.builders b s fun builder =>
      (.descriptions builder.describe builder.describeStacked, s)
  | describe c =>
    withSlot s.configurations c s fun it => (.descriptions it.describe it.describeStacked, s)
  | build b c =>
    withSlot s.builders b s fun builder =>
      (.configuration builder.build, s.putConfiguration c builder.build)
  | defaultConfiguration c =>
    (.configuration Builder.new.build, s.putConfiguration c Builder.new.build)
  | accessors c => withSlot s.configurations c s fun it => (.configuration it, s)
  | toBuilder c b =>
    withSlot s.configurations c s fun it =>
      (.text it.toBuilder.describe, s.putBuilder b it.toBuilder)
  | property c name => withSlot s.configurations c s fun it => (.value (it.property name), s)
  | get c name type => withSlot s.configurations c s fun it => (.typed (it.get name type), s)
  | hasType c name type =>
    withSlot s.configurations c s fun it =>
      (.flag ((it.property name).map (·.type == type)), s)
  | material c type =>
    withSlot s.configurations c s fun it => (.typed (it.sslContext.material type), s)
  | cast v type name => (.typed ((v.cast type name).map some), s)

end ConfigurationCommand

namespace State

/-- A look-up in the registry of a number. -/
def locate (number : Nat) (s : State) : Attempt Provider × State :=
  let (a, r, stage) := Session.locate (s.registries.get number) s.stage
  (a, { s with stage, registries := s.registries.set number r })

def locateTogether (number : Nat) : Nat → State → List (Attempt String) × State
  | 0, s => ([], s)
  | callers + 1, s =>
    let (a, s) := s.locate number
    let (as, s) := locateTogether number callers s
    (a.map Provider.display :: as, s)

def register (number : Nat) (name : String) (kind : ProviderKind) (s : State) :
    Outcome Unit × State :=
  let r := s.registries.get number
  let registration := r.registration name
  let stage := registration.announce Stage.report name s.stage
  (registration.outcome name,
    { s with
      stage := { stage with nextFactory := stage.nextFactory + 1 }
      registries := s.registries.set number (r.register name ⟨stage.nextFactory, kind⟩) })

/-- The registry a command is about: the one in the slot, or the process-wide one. -/
def registryNumber? (r? : Option Slot) (s : State) : Option Nat :=
  match r? with
  | some r => s.registryNumbers.get r
  | none => some 0

end State

namespace RegistryCommand

def run (command : RegistryCommand) (s : State) : Reply × State :=
  match command with
  | new r =>
    (.nothing, { s with
      registryNumbers := s.registryNumbers.set r (some s.nextRegistry)
      nextRegistry := s.nextRegistry + 1 })
  | processWide r =>
    (.nothing, { s with registryNumbers := s.registryNumbers.set r (some 0) })
  | register r name plan =>
    withSlot s.registryNumbers r s fun number =>
      let (o, s) := s.register number name (.planned plan)
      (.registered (o.map fun _ => name ++ " " ++ Registry.describeEntry name), s)
  | install =>
    let (o, s) := s.register 0 networkName .network
    (.installed o, s)
  | locate r =>
    withSlot s.registryNumbers r s fun number =>
      let (a, s) := s.locate number
      match a with
      | .made p =>
        (.located (.made p.display) ((s.located.get r).map (· == p.number)),
          { s with located := s.located.set r (some p.number) })
      | a => (.located (a.map Provider.display) none, s)
  | locateTogether r callers =>
    withSlot s.registryNumbers r s fun number =>
      let (as, s) := s.locateTogether number callers
      (.locatedTogether as, s)
  | isResolved r =>
    withSlot s.registryNumbers r s fun number =>
      (.flag (some (s.registries.get number).isResolved), s)
  | names r =>
    withSlot s.registryNumbers r s fun number => (.names (s.registries.get number).names, s)
  | builder r? b =>
    match s.registryNumber? r? with
    | none => (.gone, s)
    | some number =>
      let (a, s) := s.locate number
      let (a, stage) := a.andThen Provider.builder s.stage
      let s := s.withStage stage
      (.builder (a.map Builder.describe),
        match a with
        | .made seeded => s.putBuilder b seeded
        | _ => s)
  | start r? application c p =>
    match s.registryNumber? r? with
    | none => (.gone, s)
    | some number =>
      withSlot s.configurations c s fun it =>
        let (a, s) := s.locate number
        let (a, stage) := a.andThen (fun provider => provider.start application it) s.stage
        let s := s.withStage stage
        (.started (a.map fun _ => ()),
          match a with
          | .made pending => s.putPending p .started pending
          | _ => s)

end RegistryCommand

def State.view (s : State) (i : Instance) : InstanceView :=
  ⟨i.key.id, s.stage.phase i.key, i.configuration.port⟩

namespace InstanceCommand

/-- Makes an instance whose configuration has the given properties. -/
def make (id : InstanceId) (properties : List (String × Option Value)) (native? : Option Value)
    (control : Control) (s : Stage Script) : Instance × Stage Script :=
  let (b, s) := properties.foldl (fun (b, s) e => setProperty b e.1 e.2 s) (Builder.new, s)
  let (key, s) := s.addInstance id
  (⟨key, b.build, native?, control⟩, s)

def run (command : InstanceCommand) (s : State) : Reply × State :=
  match command with
  | new i id properties native? kind outcome =>
    let (it, stage) := make id properties native? ⟨i, kind, outcome⟩ s.stage
    let s := (s.withStage stage).putInstance i it
    (.instance (s.view it), s)
  | copy i target => withSlot s.instances i s fun it => (.nothing, s.putInstance target it)
  | drop i =>
    withSlot s.instances i s fun _ =>
      (.nothing, { s with instances := s.instances.set i none })
  | phase i => withSlot s.instances i s fun it => (.phase (s.stage.phase it.key), s)
  | describe i =>
    withSlot s.instances i s fun it => (.instanceDescription it (s.stage.phase it.key), s)
  | unwrap i type => withSlot s.instances i s fun it => (.typed (it.unwrap type), s)
  | stop i p =>
    withSlot s.instances i s fun it =>
      let (pending, stage) := it.stop s.stage
      let s := (s.withStage stage).putPending p .stopped pending
      (.phase (s.stage.phase it.key), s)
  | describeStop r => withSlot s.stops r s fun it => (.stopDescription it, s)
  | unwrapStop r type => withSlot s.stops r s fun it => (.typed (it.unwrap type), s)
  | complete control =>
    match s.stage.complete control with
    | some stage => (.nothing, s.withStage stage)
    | none => (.gone, s)
  | sendNative control outcome =>
    match s.stage.sendNative control outcome with
    | some (heard, stage) => (.flag (some heard), s.withStage stage)
    | none => (.gone, s)
  | abandonNative control =>
    match s.stage.abandonNative control with
    | some stage => (.nothing, s.withStage stage)
    | none => (.gone, s)

end InstanceCommand

namespace State

def viewYield (s : State) : Yield → YieldView
  | .number n => .number n
  | .text t => .text t
  | .started i => .started (s.view i)
  | .stopped r => .stopped r
  | .native v? => .native v?

/-- Keeps the instance or the stop result that an outcome carries. -/
def keep (into? : Option Slot) (o : Outcome Yield) (s : State) : State :=
  match into?, o with
  | some slot, .ok (.started i) => s.putInstance slot i
  | some slot, .ok (.stopped r) => { s with stops := s.stops.set slot (some r) }
  | _, _ => s

/-- Polls the pending outcome in a slot. -/
def poll (p : Slot) (into? : Option Slot) (s : State) : Reply × State :=
  withSlot s.pendings p s fun held =>
    let polled := held.pending.poll s.stage
    let s := s.withStage polled.surroundings
    match polled.upshot with
    | .waiting =>
      (.waiting, { s with pendings := s.pendings.set p (some ⟨held.kind, polled.rest⟩) })
    | .outcome o =>
      let s := (s.usePending p).keep into? o
      (.outcome (o.map s.viewYield), s)
    | .broken => (.overrun .over, s.usePending p)

/-- Polls, and while there is no outcome goes on with `between` before each further poll. -/
def pollUpTo (p : Slot) (into? : Option Slot) (between : Stage Script → Stage Script) :
    Nat → State → Reply × State
  | 0, s => s.poll p into?
  | further + 1, s =>
    match s.poll p into? with
    | (.waiting, s) => pollUpTo p into? between further (s.withStage (between s.stage))
    | answered => answered

/-- What stands against another poll of a pending outcome that has just given its outcome. One that
held it ready can be polled on, and so can one whose line was closed without a word. -/
def overrun? (p : Pending Script) (s : Stage Script) : Option Overrun :=
  match p with
  | .ready _ => none
  | .work (.line line) =>
    match s.lines.get line with
    | .deaf => some .delivered
    | _ => none
  | _ => some .over

/-- Polls one pending outcome several times, outcome or not, and gives up what is left. -/
def pollRepeatedly (p : Pending Script) :
    Nat → State → Except Overrun (List (Option (Outcome YieldView))) × State
  | 0, s => (.ok [], s.withStage (p.abandon s.stage))
  | further + 1, s =>
    let polled := p.poll s.stage
    let s := s.withStage polled.surroundings
    match polled.upshot, further, overrun? p s.stage with
    | .broken, _, _ => (.error .over, s)
    | .outcome _, _ + 1, some cause => (.error cause, s)
    | upshot, _, _ =>
      let (os, t) := pollRepeatedly polled.rest further s
      (os.map (upshot.outcome?.map (·.map s.viewYield) :: ·), t)

/-- Puts another pending outcome in the place of one, if its kind of success fits. -/
def layer (p : Slot) (kind? : YieldKind → Option YieldKind)
    (f : Pending Script → Pending Script) (s : State) : Reply × State :=
  withSlot s.pendings p s fun held =>
    match kind? held.kind with
    | some kind =>
      (.nothing, { s with pendings := s.pendings.set p (some ⟨kind, f held.pending⟩) })
    | none => (.gone, s)

end State

/-- How often waiting polls again: for the schedulers to settle all, and for work to be ready. -/
def awaitTurns : Nat := 8
def waitPolls : Nat := 64

namespace PendingCommand

def run (command : PendingCommand) (s : State) : Reply × State :=
  match command with
  | ready p n => (.nothing, s.putPending p .number (.value (.number n)))
  | failed p e => (.nothing, s.putPending p .number (.failed e))
  | future p =>
    let (work, stage) := s.stage.newWork p
    (.nothing, (s.withStage stage).putPending p .number (.future (handWork p work)))
  | spawn p =>
    let (work, stage) := s.stage.newWork p
    let (pending, stage) := Pending.spawn (.reply work) (handWork p work) stage
    (.nothing, (s.withStage stage).putPending p .number pending)
  | send p o =>
    match s.stage.sendHand p (o.map .number) with
    | some (heard, stage) => (.flag (some heard), s.withStage stage)
    | none => (.gone, s)
  | abandon p =>
    match s.stage.abandonHand p with
    | some stage => (.nothing, s.withStage stage)
    | none => (.gone, s)
  | map p mapping => s.layer p mapping.kind? (·.map mapping.apply)
  | compose p sequel => s.layer p sequel.kind? (·.compose sequel.continuation)
  | composeOther p q =>
    withSlot s.pendings q s fun held =>
      match s.pendings.get p, held.kind with
      | some ⟨.number, _⟩, .number =>
        (s.usePending q).layer p some (·.compose (other held.pending))
      | _, _ => (.gone, s)
  | inspect p => s.layer p some Session.inspect
  | poll p into? => s.poll p into?
  | pollAgain p =>
    withSlot s.pendings p s fun held =>
      match (s.usePending p).pollRepeatedly held.pending 3 with
      | (.ok os, s) => (.outcomes os, s)
      | (.error cause, s) => (.overrun cause, s)
  | await p into? => s.pollUpTo p into? Stage.turnAll awaitTurns
  | wait p into? => s.pollUpTo p into? (Stage.turn .provider) waitPolls
  | drop p =>
    withSlot s.pendings p s fun held =>
      (.nothing, (s.usePending p).withStage (held.pending.abandon s.stage))
  | turn => (.nothing, s.withStage s.stage.turnAll)
  | shutdown => (.nothing, s.withStage (s.stage.shutdown .session))

end PendingCommand

def Command.run (command : Command) (s : State) : Reply × State :=
  match command with
  | .configuration c => c.run s
  | .registry c => c.run s
  | .instance c => c.run s
  | .pending c => c.run s

/-- Unfinished work is given up in no particular order, so its traces are sorted. -/
def Command.sortsLog : Command → Bool
  | .pending .shutdown => true
  | _ => false

/-- What a command is answered, and what was logged meanwhile. -/
structure Answer where
  reply : Reply
  log : List String

def Command.answer (command : Command) (s : State) : Answer × State :=
  let (reply, t) := command.run s
  let log := (t.stage.log.drop s.stage.log.length).map Entry.text
  (⟨reply, if command.sortsLog then log.mergeSort (· ≤ ·) else log⟩, t)

/-- Whether nothing more is run behind a reply. -/
def Reply.isLast : Reply → Bool
  | overrun _ => true
  | _ => false

def run : List Command → State → List Answer
  | [], _ => []
  | command :: commands, s =>
    let (answer, s) := command.answer s
    answer :: if answer.reply.isLast then [] else run commands s

end ServiceBootstrap.Session
