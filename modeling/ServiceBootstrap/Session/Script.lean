import ServiceBootstrap.Session.Scheduler

/-!
Work that follows a script: a list of things to do on the way to an outcome.
-/

namespace ServiceBootstrap.Session

/-- One thing that work does on its way. -/
inductive Cue where
  | note (n : Note)
  /-- Waits for what is sent by hand to the work of a number, and takes it for the work's own
  outcome. -/
  | receive (work : Nat)
  /-- Gives up the completion of an instance. -/
  | release (key : InstanceKey)
  /-- Starts a server, and takes its instance or the failure for the work's own outcome. -/
  | openListener (key : InstanceKey) (c : Configuration)
  /-- Closes the listener at an address. -/
  | close (address : SocketAddress)
  /-- Is not ready once. -/
  | pause
  /-- Breaks down. -/
  | panic

/-- Work: what is still to be done, and the outcome it is heading for. -/
structure Script where
  cues : List Cue
  outcome : Outcome Yield

/-- The name the network provider goes by. -/
def networkName : String := "tokio"

/-- A server as an instance. Its stop reports no connections: there is nobody to open one. -/
def serverInstance (key : InstanceKey) (started : Server.Started) : Instance where
  key := key
  configuration := started.configuration
  native? := some (.serverHandle started.handle)
  control := ⟨networkName, .listener started.handle.address,
    .ok (some (.shutdownReport ⟨key.id, 0, 0, 0⟩))⟩

/-- Advances work as far as it can go. -/
def advance (task? : Option Line) :
    List Cue → Outcome Yield → Stage Script → Progress Script Yield × Stage Script
  | [], o, s => (.finished o, s)
  | .note n :: cues, o, s => advance task? cues o (s.say n)
  | .release key :: cues, o, s => advance task? cues o (s.release key)
  | .pause :: cues, o, s => (.waiting ⟨cues, o⟩, s.wake task?)
  | .panic :: cues, o, s => (.broken ⟨cues, o⟩, s)
  | .openListener key c :: cues, _, s =>
    let (started, provider) := s.provider.start c key.id 0
    advance task? cues (started.map (.started ∘ serverInstance key)) { s with provider }
  | .close address :: cues, o, s =>
    advance task? cues o { s with provider := s.provider.close address }
  | .receive work :: cues, o, s =>
    match s.receive task? (.hand work) with
    | (some received, s) => advance task? cues received s
    | (none, s) => (.waiting ⟨.receive work :: cues, o⟩, s)

/-- Gives up what a step of unfinished work still holds. -/
def Cue.abandon : Cue → Stage Script → Stage Script
  | receive work, s => s.hangUp (.hand work)
  | release key, s => s.release key
  | note _, s | pause, s | panic, s | openListener .., s | close _, s => s

def Script.abandon (w : Script) (s : Stage Script) : Stage Script :=
  w.cues.foldl (fun s c => c.abandon s) s

instance : Task Script where
  advance task? w s := advance task? w.cues w.outcome s
  abandon := Script.abandon

/-- Keeps the sender of new work under the name of the work. -/
def Stage.newWork {W : Type} (name : String) (s : Stage W) : Nat × Stage W :=
  let s := match s.hands.get name with
    | some old => s.closeLine (.hand old)
    | none => s
  (s.nextWork, { s with nextWork := s.nextWork + 1, hands := s.hands.set name (some s.nextWork) })

/-- Work that says when it begins, waits for its sender, and says when it ends. -/
def handWork (name : String) (work : Nat) : Script :=
  ⟨[.note (.workBegins name), .receive work, .note (.workEnds name)], .error .abandoned⟩

end ServiceBootstrap.Session
