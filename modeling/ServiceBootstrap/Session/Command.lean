import ServiceBootstrap.Session.Layer
import ServiceBootstrap.Session.Provider

/-!
What can be asked of a session, and what it answers.

Everything a session works on is kept in slots with names of their own, one family of slots for
each kind of thing.
-/

namespace ServiceBootstrap.Session

abbrev Slot := String

/-- One way to change a builder. -/
inductive Setting where
  | property (name : String) (v? : Option Value)
  | protocol (s : String)
  | host (s : String)
  | port (n : Int32)
  | rootPath (s : String)
  | sslContext (context : SslContext)
  | sslClientAuthentication (policy : ClientAuth)

inductive ConfigurationCommand where
  | new (b : Slot)
  | set (b : Slot) (setting : Setting)
  | copyBuilder (b target : Slot)
  | copyConfiguration (c target : Slot)
  | describeBuilder (b : Slot)
  | describe (c : Slot)
  | build (b c : Slot)
  | defaultConfiguration (c : Slot)
  | accessors (c : Slot)
  | toBuilder (c b : Slot)
  | property (c : Slot) (name : String)
  | get (c : Slot) (name : String) (type : ValueType)
  | hasType (c : Slot) (name : String) (type : ValueType)
  | material (c : Slot) (type : ValueType)
  | cast (v : Value) (type : ValueType) (name : String)

inductive RegistryCommand where
  | new (r : Slot)
  | processWide (r : Slot)
  | register (r : Slot) (name : String) (plan : Plan)
  /-- Registers the network provider in the process-wide registry. -/
  | install
  | locate (r : Slot)
  /-- Look-ups by several callers at once, which come to hold the registry one after another. -/
  | locateTogether (r : Slot) (callers : Nat)
  | isResolved (r : Slot)
  | names (r : Slot)
  /-- Without a slot the process-wide registry is used. -/
  | builder (r? : Option Slot) (b : Slot)
  | start (r? : Option Slot) (application : String) (c p : Slot)

inductive InstanceCommand where
  | new (i : Slot) (id : InstanceId) (properties : List (String × Option Value))
      (native? : Option Value) (kind : Control.Kind) (outcome : Outcome (Option Value))
  | copy (i target : Slot)
  | drop (i : Slot)
  | phase (i : Slot)
  | describe (i : Slot)
  | unwrap (i : Slot) (type : ValueType)
  | stop (i p : Slot)
  | describeStop (s : Slot)
  | unwrapStop (s : Slot) (type : ValueType)
  /-- The three ways in which a manual control is told to go on. -/
  | complete (control : Slot)
  | sendNative (control : Slot) (outcome : Outcome (Option Value))
  | abandonNative (control : Slot)

inductive PendingCommand where
  | ready (p : Slot) (n : Int64)
  | failed (p : Slot) (failure : Failure)
  | future (p : Slot)
  | spawn (p : Slot)
  | send (p : Slot) (outcome : Outcome Int64)
  | abandon (p : Slot)
  | map (p : Slot) (mapping : Mapping)
  | compose (p : Slot) (sequel : Sequel)
  | composeOther (p q : Slot)
  | inspect (p : Slot)
  | poll (p : Slot) (into? : Option Slot)
  | pollAgain (p : Slot)
  /-- Polls, then lets the schedulers take a turn before each further poll. -/
  | await (p : Slot) (into? : Option Slot)
  /-- Polls until there is an outcome. The session does nothing else meanwhile. -/
  | wait (p : Slot) (into? : Option Slot)
  | drop (p : Slot)
  | turn
  /-- The session loses its scheduler. -/
  | shutdown

inductive Command where
  | configuration (c : ConfigurationCommand)
  | registry (c : RegistryCommand)
  | instance (c : InstanceCommand)
  | pending (c : PendingCommand)

/-- An instance as an answer shows it. -/
structure InstanceView where
  id : InstanceId
  phase : Phase
  port : Int32
  deriving DecidableEq, Repr

/-- A success as an answer shows it. -/
inductive YieldView where
  | number (n : Int64)
  | text (s : String)
  | started (i : InstanceView)
  | stopped (r : StopResult)
  | native (v? : Option Value)

/-- Why a pending outcome cannot be polled any more. -/
inductive Overrun where
  /-- Its work or its topmost layer is over, or broke down. -/
  | over
  /-- The line it waited on has brought what it was to bring. -/
  | delivered
  deriving DecidableEq, Repr

inductive Reply where
  | nothing
  /-- What the command is about is not there, or was used up. -/
  | gone
  /-- There is no outcome yet. -/
  | waiting
  | text (s : String)
  /-- A description on one line, and one with a line for each entry. -/
  | descriptions (inline stacked : String)
  | names (names : List String)
  | configuration (c : Configuration)
  | value (v? : Option Value)
  | typed (o : Outcome (Option Value))
  | flag (b? : Option Bool)
  | registered (o : Outcome String)
  | installed (o : Outcome Unit)
  | located (a : Attempt String) (same? : Option Bool)
  | locatedTogether (as : List (Attempt String))
  | builder (a : Attempt String)
  | started (a : Attempt Unit)
  | phase (p : Phase)
  | instance (i : InstanceView)
  | instanceDescription (i : Instance) (phase : Phase)
  | stopDescription (r : StopResult)
  | outcome (o : Outcome YieldView)
  /-- What several polls in a row gave. -/
  | outcomes (os : List (Option (Outcome YieldView)))
  /-- The session broke down in a poll, as it does in one behind the outcome. -/
  | overrun (cause : Overrun)

end ServiceBootstrap.Session
