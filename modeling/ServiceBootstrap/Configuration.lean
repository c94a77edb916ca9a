import ServiceBootstrap.Configuration.Key
import ServiceBootstrap.NameMap

/-!
Configurations and their builders.

Both hold the properties that were set explicitly. A builder keeps a value under a recognized name
only if the value has the declared type, so an accessor never meets a value of another type; a
recognized property that is not set reads as its default.
-/

namespace ServiceBootstrap

/-- Whether a value may be kept under a name. -/
def admits (name : String) (v : Value) : Bool :=
  match Key.ofName? name with
  | some k => v.type == k.type
  | none => true

structure Configuration where
  properties : NameMap Value
  deriving Inhabited

structure Builder where
  properties : NameMap Value
  deriving Inhabited

namespace Builder

def new : Builder := ⟨.empty⟩

/-- Sets a property, or resets it. A value that the name does not admit changes nothing. -/
def property (b : Builder) (name : String) : Option Value → Builder
  | none => ⟨b.properties.erase name⟩
  | some v => if admits name v then ⟨b.properties.insert name v⟩ else b

def protocol (b : Builder) (s : String) : Builder := b.property Key.protocol.name (some (.text s))
def host (b : Builder) (s : String) : Builder := b.property Key.host.name (some (.text s))
def port (b : Builder) (n : Int32) : Builder := b.property Key.port.name (some (.int32 n))
def rootPath (b : Builder) (s : String) : Builder := b.property Key.rootPath.name (some (.text s))

def sslContext (b : Builder) (c : SslContext) : Builder :=
  b.property Key.sslContext.name (some (.sslContext c))

def sslClientAuthentication (b : Builder) (policy : ClientAuth) : Builder :=
  b.property Key.sslClientAuthentication.name (some (.clientAuth policy))

/-- A snapshot of the current properties. -/
def build (b : Builder) : Configuration := ⟨b.properties⟩

end Builder

namespace Configuration

/-- A builder seeded with every explicitly set property. -/
def toBuilder (c : Configuration) : Builder := ⟨c.properties⟩

/-- The stored value, else the default of a recognized name. -/
def property (c : Configuration) (name : String) : Option Value :=
  (c.properties.find? name).or ((Key.ofName? name).map Key.default)

/-- Typed read of any property; nothing if the name is neither set nor recognized. -/
def get (c : Configuration) (name : String) (t : ValueType) : Outcome (Option Value) :=
  match c.property name with
  | some v => (v.cast t name).map some
  | none => .ok none

/-- The names that were set, in ascending order. -/
def names (c : Configuration) : List String := c.properties.names

def text (c : Configuration) (k : Key) (ifUnset : String) : String :=
  match c.properties.find? k.name with
  | some (.text s) => s
  | _ => ifUnset

def protocol (c : Configuration) : String := c.text .protocol Key.defaultProtocol
def host (c : Configuration) : String := c.text .host Key.defaultHost
def rootPath (c : Configuration) : String := c.text .rootPath Key.defaultRootPath

def port (c : Configuration) : Int32 :=
  match c.properties.find? Key.port.name with
  | some (.int32 n) => n
  | _ => Key.defaultPort

def sslContext (c : Configuration) : SslContext :=
  match c.properties.find? Key.sslContext.name with
  | some (.sslContext context) => context
  | _ => .platformDefault

def sslClientAuthentication (c : Configuration) : ClientAuth :=
  match c.properties.find? Key.sslClientAuthentication.name with
  | some (.clientAuth policy) => policy
  | _ => .none

end Configuration

end ServiceBootstrap
