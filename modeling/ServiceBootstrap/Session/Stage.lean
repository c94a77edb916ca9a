import ServiceBootstrap.Event
import ServiceBootstrap.Instance
import ServiceBootstrap.Server.Provider
import ServiceBootstrap.Table

/-!
The stage of a session: the lines that work talks over, the lives of the instances, the network
provider, the log of what happened, and what the schedulers keep.

A line carries one outcome from its sender to its receiver, and either side can go away first. The
work itself can be of any type `W`.
-/

namespace ServiceBootstrap.Session

/-- What an outcome carries in a session. -/
inductive Yield where
  | number (n : Int64)
  | text (s : String)
  | started (i : Instance)
  | stopped (r : StopResult)
  | native (v? : Option Value)

def Yield.native? : Yield → Option Value
  | native v? => v?
  | _ => none

/-- What work, controls and providers say while they do something. -/
inductive Note where
  | workBegins (name : String)
  | workEnds (name : String)
  | adding (n : Int64)
  | composingReady (n : Int64)
  | composingFailure (on : Int64)
  | composingOther (on : Int64)
  | inspecting (failure : Failure)
  | controlStop (name : String)
  | controlFuture
  | controlWork
  | factoryCall (name : String) (count : Nat)
  | bootstrap (application display : String)

def Note.text : Note → String
  | workBegins name => "work " ++ name ++ " begins"
  | workEnds name => "work " ++ name ++ " ends"
  | adding n => "then add " ++ toString n.toInt
  | composingReady n => "compose ready " ++ toString n.toInt
  | composingFailure on => "compose fail on " ++ toString on.toInt
  | composingOther on => "compose other on " ++ toString on.toInt
  | inspecting failure => "inspect " ++ failure.message
  | controlStop name => "control stop " ++ name
  | controlFuture => "control future"
  | controlWork => "control work"
  | factoryCall name count => "factory " ++ name ++ " call " ++ toString count
  | bootstrap application display => "bootstrap " ++ application ++ " on " ++ display

inductive Entry where
  | event (e : Event)
  | note (n : Note)

def Entry.text : Entry → String
  | event e => e.text
  | note n => n.text

/-- What runs spawned work: the session, or the network provider on its own. -/
inductive Scheduler where
  | session
  | provider
  deriving DecidableEq, Repr

inductive Line where
  /-- From the holder of a piece of work's sender to the work. -/
  | hand (work : Nat)
  /-- From spawned work to the pending outcome that waits for it. -/
  | reply (work : Nat)
  /-- From the start of a server to the pending outcome that waits for its instance. -/
  | started (key : InstanceKey)
  /-- From the control of an instance to the stop that waits for it. -/
  | native (key : InstanceKey)
  /-- From the network provider to the stop of one of its servers. -/
  | report (key : InstanceKey)
  deriving DecidableEq, Repr

/-- What runs the work that replies on a line. -/
def Line.scheduler : Line → Scheduler
  | hand _ | reply _ | native _ => .session
  | started _ | report _ => .provider

inductive LineState where
  /-- Nothing was sent yet. Spawned work that waits is known by the line it replies on. -/
  | silent (waiter? : Option Line)
  | sent (o : Outcome Yield)
  /-- The sender went away without a word. -/
  | closed
  /-- The receiver is gone, or has what it waited for. -/
  | deaf

structure Stage (W : Type) where
  log : List Entry := []
  lifecycles : Table InstanceKey Lifecycle := .const .start
  lines : Table Line LineState := .const (.silent none)
  /-- Unfinished spawned work, by the line it replies on. -/
  tasks : Table Line (Option W) := .const none
  /-- Everything that was ever spawned, in this order. -/
  spawned : List Line := []
  /-- Spawned work that can go on in the next turn of its scheduler. -/
  queue : List Line := []
  /-- Whether there still is the scheduler of the session. -/
  alive : Bool := true
  provider : Server.Provider := {}
  /-- The sender that is held for work, by the name the work was given. -/
  hands : Table String (Option Nat) := .const none
  /-- The completion that is kept for the control of a name. -/
  completions : Table String (Option InstanceKey) := .const none
  /-- The sender of the outcome that is kept for the control of a name. -/
  natives : Table String (Option InstanceKey) := .const none
  nextWork : Nat := 0
  nextInstance : Nat := 0
  nextFactory : Nat := 0
  nextProvider : Nat := 0
  /-- Counts the identifiers that providers gave out. -/
  nextId : Nat := 1
  /-- How often a factory was called. -/
  calls : Table Nat Nat := .const 0
  /-- How many ports a provider gave out. -/
  ports : Table Nat Nat := .const 0

namespace Stage

variable {W : Type}

def report (e : Event) (s : Stage W) : Stage W := { s with log := s.log ++ [.event e] }

def say (n : Note) (s : Stage W) : Stage W := { s with log := s.log ++ [.note n] }

def lifecycle (s : Stage W) (key : InstanceKey) : Lifecycle := s.lifecycles.get key

def phase (s : Stage W) (key : InstanceKey) : Phase := (s.lifecycle key).phase

def setLifecycle (key : InstanceKey) (l : Lifecycle) (s : Stage W) : Stage W :=
  { s with lifecycles := s.lifecycles.set key l }

/-- Numbers a new instance, which is running. -/
def addInstance (id : InstanceId) (s : Stage W) : InstanceKey × Stage W :=
  let key : InstanceKey := ⟨s.nextInstance, id⟩
  (key, { s.setLifecycle key .start with nextInstance := s.nextInstance + 1 })

@[simp] theorem phase_addInstance (id : InstanceId) (s : Stage W) :
    (s.addInstance id).2.phase (s.addInstance id).1 = .running :=
  congrArg Lifecycle.phase (Table.get_set_self ..)

/-- The completion of an instance is given up. -/
def release (key : InstanceKey) (s : Stage W) : Stage W :=
  let l := s.lifecycle key
  { s with
    log := if l.stopsOnRelease then s.log ++ [.event (.released key.id)] else s.log
    lifecycles := s.lifecycles.set key l.release }

def setLine (line : Line) (l : LineState) (s : Stage W) : Stage W :=
  { s with lines := s.lines.set line l }

def wake : Option Line → Stage W → Stage W
  | some task, s => { s with queue := s.queue ++ [task] }
  | none, s => s

/-- Puts an end to the silence on a line, and tells whether there was one. -/
def endSilence (line : Line) (l : LineState) (s : Stage W) : Bool × Stage W :=
  match s.lines.get line with
  | .silent waiter? => (true, (s.setLine line l).wake waiter?)
  | .sent _ | .closed | .deaf => (false, s)

/-- Sends on a line, and tells whether the receiver is still there. -/
def send (line : Line) (o : Outcome Yield) (s : Stage W) : Bool × Stage W :=
  s.endSilence line (.sent o)

/-- The sender of a line goes away. -/
def closeLine (line : Line) (s : Stage W) : Stage W := (s.endSilence line .closed).2

/-- The receiver of a line goes away. -/
def hangUp (line : Line) (s : Stage W) : Stage W := s.setLine line .deaf

/-- Looks for what was sent on a line; a spawned piece of work that finds nothing yet is woken when
there is something. -/
def receive (task? : Option Line) (line : Line) (s : Stage W) : Option (Outcome Yield) × Stage W :=
  match s.lines.get line with
  | .sent o => (some o, s.hangUp line)
  | .silent _ => (none, s.setLine line (.silent task?))
  | .closed | .deaf => (some (.error .abandoned), s)

end Stage

end ServiceBootstrap.Session
