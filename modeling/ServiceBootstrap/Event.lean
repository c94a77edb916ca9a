import ServiceBootstrap.Configuration

/-!
What the core library reports while it works, and the line of text for each report.

These are the reports about properties, the registry and the life of an instance. A provider may
report on its own account as well: the network provider tells of its listener, of its accept loop
and of each connection. Nothing else reads those, and they are left out.
-/

namespace ServiceBootstrap

inductive Event where
  | propertyIgnored (name : String) (key : Key) (found : ValueType)
  | providerKnown (provider : String)
  | providerRegistered (provider : String)
  | providerPassedOver (provider chosen : String)
  | providerResolved (provider : String)
  | bootstrapping (provider application : String) (configuration : Configuration)
  | stopRefused (id : InstanceId)
  | stopping (id : InstanceId)
  | stopped (id : InstanceId)
  | stoppedWithFailure (id : InstanceId) (failure : Failure)
  | released (id : InstanceId)

namespace Event

inductive Level where
  | debug
  | info
  | warn
  deriving DecidableEq, Repr

def Level.word : Level → String
  | debug => "DEBUG"
  | info => "INFO"
  | warn => "WARN"

def level : Event → Level
  | propertyIgnored .. | providerKnown _ | providerRegistered _ | bootstrapping .. |
    stopRefused _ | released _ => .debug
  | providerResolved _ | stopping _ | stopped _ => .info
  | providerPassedOver .. | stoppedWithFailure .. => .warn

def title : Event → String
  | propertyIgnored .. => "Ignoring property value of wrong type"
  | providerKnown _ => "Provider already registered"
  | providerRegistered _ => "Provider registered"
  | providerPassedOver .. => "Multiple bootstrap providers registered, ignoring"
  | providerResolved _ => "Bootstrap provider resolved"
  | bootstrapping .. => "Bootstrapping application"
  | stopRefused _ => "Stop requested on an instance that is not running"
  | stopping _ => "Stopping instance"
  | stopped _ => "Instance stopped"
  | stoppedWithFailure .. => "Instance stopped with error"
  | released _ => "Instance released by provider"

def fields : Event → List (String × String)
  | propertyIgnored name key found =>
    [("property", name), ("expected", key.typeWord), ("found", found.name)]
  | providerKnown provider | providerRegistered provider | providerResolved provider =>
    [("provider", provider)]
  | providerPassedOver provider chosen => [("provider", provider), ("chosen", chosen)]
  | bootstrapping provider application c =>
    [("provider", provider), ("application", application), ("protocol", c.protocol),
      ("host", c.host), ("port", toString c.port.toInt)]
  | stopRefused id | stopping id | stopped id | released id => [("instance", id.text)]
  | stoppedWithFailure id failure => [("instance", id.text), ("error", failure.message)]

def text (e : Event) : String :=
  e.level.word ++ " " ++ e.title ++
    String.join (e.fields.map fun f => " " ++ f.1 ++ "=" ++ f.2)

/-- The instance an event is about, if it belongs to the life of one. -/
def instance? : Event → Option InstanceId
  | stopRefused id | stopping id | stopped id | stoppedWithFailure id _ | released id => some id
  | _ => none

/-- What is reported when a property is set: a value that its name does not admit. -/
def ofProperty (name : String) : Option Value → Option Event
  | some v =>
    match Key.ofName? name with
    | some k => if v.type = k.type then none else some (.propertyIgnored name k v.type)
    | none => none
  | none => none

end Event

end ServiceBootstrap
